import TxTemplate.Bytes.Base64
import TxTemplate.Bytes.Hex
import TxTemplate.Bytes.LittleEndian
import TxTemplate.TypedData.Kind

set_option autoImplicit false

/-! Single literals: numbers and truth values in the forms that templates allow, text that stands
for bytes, and whole numbers that every JSON reader can hold. -/

namespace TxTemplate.Scalar

/-- The largest whole number that a double holds together with all smaller ones. -/
def maxSafe : Nat := Nat.pow 2 53 - 1

def readTrimmed (text : String) : Except Decimal.Flaw Int :=
  Decimal.read (Text.strip text.toList)

/-- The number that a literal stands for: a truth value, a number without a fraction, or a text. -/
def integer (value : Json) : Except Fault Int :=
  match value with
  | .bool flag => .ok (if flag then 1 else 0)
  | .int n => .ok n
  | .float x =>
    match Binary64.toInt? x with
    | some n => .ok n
    | none => .error (.codec (.invalidEncoding (.number value)))
  | .str text =>
    match readTrimmed text with
    | .ok n => .ok n
    | .error _ => .error (.codec (.invalidEncoding (.numeral value)))
  | _ => .error (.codec (.invalidEncoding (.number value)))

def natural (value : Json) : Except Fault Nat :=
  match integer value with
  | .error fault => .error fault
  | .ok n => if n < 0 then .error (.codec (.invalidEncoding (.negative value))) else .ok n.toNat

/-- The truth value of a literal; a text is true when it says so. -/
def boolean (value : Json) : Except Fault Bool :=
  match value with
  | .bool flag => .ok flag
  | .str text => .ok (text == "true")
  | _ => .error (.codec (.invalidEncoding (.boolean value)))

def isAscii (text : List Char) : Bool := text.all fun c => c.toNat < 128

def bytesOfText (text : String) : Except Fault Bytes :=
  match text.toList with
  | '0' :: 'x' :: digits =>
    match Hex.decode digits with
    | some bytes => .ok bytes
    | none => .error (.codec (.invalidEncoding (.hex text)))
  | chars =>
    if !isAscii chars then .error .nonAscii
    else
      match Base64.decode chars with
      | some bytes => .ok bytes
      | none => .error (.codec (.invalidEncoding (.base64 text)))

/-- A whole number as a value that every reader can hold: as a numeral text above the safe ones. -/
def safeInteger (n : Int) : Json := if (maxSafe : Int) < n then .str (Decimal.intText n) else .int n

def packWord (kind : WordKind) (n : Nat) : Except Fault Bytes :=
  if Nat.pow 256 kind.width ≤ n then .error (.codec (.invalidEncoding (.tooWide n kind.name)))
  else .ok (LittleEndian.encode kind.width n)

end TxTemplate.Scalar
