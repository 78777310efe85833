import TxTemplate.Fault

set_option autoImplicit false

/-! Amounts for people: digits in groups of three, and decimal amounts of the main unit read as
whole numbers of its billionth part. -/

namespace TxTemplate.Amount

def groupsFromEnd : List Char → List (List Char)
  | a :: b :: c :: rest => [c, b, a] :: groupsFromEnd rest
  | [] => []
  | short => [short.reverse]

def group (digits : List Char) : List Char :=
  List.intercalate ['_'] (groupsFromEnd digits.reverse).reverse

def withoutLines (text : List Char) : List Char := text.filter fun c => c != '_'

def takeMinus : List Char → Bool × List Char
  | '-' :: rest => (true, rest)
  | text => (false, text)

/-- The part before the first point and, where there is a point, the part behind it. -/
def splitPoint (text : List Char) : List Char × Option (List Char) :=
  match text.dropWhile fun c => c != '.' with
  | _ :: rest => (text.takeWhile fun c => c != '.', some rest)
  | [] => (text, none)

def formatChars (text : List Char) : List Char :=
  let (negative, unsigned) := takeMinus (Text.strip text)
  let (whole, fraction) := splitPoint (withoutLines unsigned)
  let grouped := match fraction with
    | some places => group whole ++ '.' :: group places
    | none => group whole
  if negative then '-' :: grouped else grouped

def format (text : String) : String := String.ofList (formatChars text.toList)

def formatInt (n : Int) : String := String.ofList (formatChars (Decimal.ofInt n))

def places : Nat := 9

/-- The value of a run of digits; an empty run counts as nought. Characters that only look like
digits have no value. -/
def runValue (run : List Char) : Except Fault Nat :=
  match run with
  | [] => .ok 0
  | _ =>
    match Decimal.read run with
    | .ok n => .ok n.toNat
    | .error flaw => .error (.numeral (String.ofList run) flaw)

def parts (text : List Char) : Option (List Char × List Char) :=
  match splitPoint text with
  | (whole, none) => some (whole, [])
  | (whole, some fraction) => if fraction.contains '.' then none else some (whole, fraction)

def parse (text : String) : Except Fault Nat :=
  let cleaned := withoutLines (Text.strip text.toList)
  if cleaned.isEmpty then .error (.amount .empty)
  else if cleaned.head? = some '-' then .error (.amount .negative)
  else
    match parts cleaned with
    | none => .error (.amount .points)
    | some (whole, fraction) =>
      if !(whole.all Decimal.isDigitLike && fraction.all Decimal.isDigitLike) then
        .error (.amount (.digits text))
      else if places < fraction.length then .error (.amount .places)
      else do
        let units ← runValue whole
        let rest ← runValue
          (if fraction.isEmpty then []
            else fraction ++ List.replicate (places - fraction.length) '0')
        pure (units * Nat.pow 10 places + rest)

end TxTemplate.Amount
