import TxTemplate.Bytes.Radix
import TxTemplate.Decimal.Digit

set_option autoImplicit false

/-! Whole numbers as decimal text. Writing uses the ASCII digits. Reading takes digits of any
script, one sign, single low lines between digits, and blanks around the numeral; a numeral of more
than `digitLimit` digits is refused whatever follows it. -/

namespace TxTemplate.Decimal

def digit (value : Nat) : Char := Char.ofNat (48 + value)

/-- The digits of a number, most significant first; nought is one digit. -/
def ofNat (n : Nat) : List Char :=
  if n = 0 then ['0'] else ((Radix.digits 10 n).map digit).reverse

def ofInt : Int → List Char
  | .ofNat n => ofNat n
  | .negSucc n => '-' :: ofNat (n + 1)

def natText (n : Nat) : String := String.ofList (ofNat n)

def intText (n : Int) : String := String.ofList (ofInt n)

/-- The number that digit values stand for, most significant first. -/
def valueOf (digits : List Nat) : Nat := Radix.value 10 digits.reverse

def digitLimit : Nat := 4300

/-- Only numbers of so many digits are written in texts. -/
def isWritable (n : Int) : Bool := n.natAbs < Nat.pow 10 digitLimit

inductive Flaw where
  | malformed
  | tooLong (digits : Nat)
  | unwritable
  deriving Repr, DecidableEq

/-- A run of digits with single low lines between them, and what follows it. The flag says whether
the character before was a digit; a run neither starts nor ends with a low line. -/
def digitRun : Bool → List Char → Option (List Nat × List Char)
  | afterDigit, [] => if afterDigit then some ([], []) else none
  | afterDigit, c :: rest =>
    match value? c with
    | some value => (digitRun true rest).map fun run => (value :: run.1, run.2)
    | none =>
      if afterDigit then
        if c = '_' then digitRun false rest else some ([], c :: rest)
      else none

def takeSign : List Char → Bool × List Char
  | '-' :: rest => (true, rest)
  | '+' :: rest => (false, rest)
  | text => (false, text)

def read (text : List Char) : Except Flaw Int :=
  let (negative, unsigned) := takeSign (text.dropWhile Text.isWhiteSpace)
  match digitRun false unsigned with
  | none => .error .malformed
  | some (digits, rest) =>
    if digitLimit < digits.length then .error (.tooLong digits.length)
    else if (rest.dropWhile Text.isWhiteSpace).isEmpty then
      .ok (if negative then -(valueOf digits : Int) else valueOf digits)
    else .error .malformed

end TxTemplate.Decimal
