import TxTemplate.Fault

set_option autoImplicit false

/-! Placeholders: the text `$N` stands for the caller's N-th parameter, counted from one without
leading zeros. One line end may follow the number. Resolving is a single step, so a parameter that
looks like a placeholder stays as it is. -/

namespace TxTemplate

abbrev Params := List String

namespace Placeholder

def isDigit (c : Char) : Bool := '0' ≤ c && c ≤ '9'

/-- The digits of a placeholder: a run that does not start with nought, at the end of the text or
before its final line end. -/
def digits? : List Char → Option (List Char)
  | '$' :: first :: rest =>
    let run := rest.takeWhile isDigit
    let after := rest.dropWhile isDigit
    if isDigit first ∧ first ≠ '0' ∧ (after = [] ∨ after = ['\n']) then some (first :: run)
    else none
  | _ => none

/-- The parameter that a text stands for, counted from nought. A number with more digits than
numerals may have is refused. -/
def index? (text : String) : Except Fault (Option Nat) :=
  match digits? text.toList with
  | none => .ok none
  | some digits =>
    if Decimal.digitLimit < digits.length then
      .error (.numeral (String.ofList digits) (.tooLong digits.length))
    else .ok (some (Decimal.valueOf (digits.map fun c => c.toNat - 48) - 1))

def text (index : Int) : String := "$" ++ Decimal.intText (index + 1)

/-- The value with a placeholder in range replaced by its parameter. -/
def resolve (params : Params) (value : Json) : Except Fault Json :=
  match value with
  | .str text =>
    match index? text with
    | .error fault => .error fault
    | .ok none => .ok value
    | .ok (some index) =>
      match params[index]? with
      | some param => .ok (.str param)
      | none => .ok value
  | _ => .ok value

end Placeholder

end TxTemplate
