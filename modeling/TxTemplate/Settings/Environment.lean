import TxTemplate.Session

set_option autoImplicit false

/-! Variables of the environment: those in files of assignments, and references to them in settings.
References are replaced in place, mapping by mapping, so a mapping that is come to twice is gone
through twice. -/

namespace TxTemplate.Environment

def value? (environment : Environment) (name : String) : Option String := environment.lookup name

/-- The environment with the assignments of a file; a file that is not there has none. -/
def withFile (readers : Readers) (environment : Environment) (directory : Directory)
    (path : String) :
    Except Fault Environment :=
  if directory.hasFile path then do
    let text ← directory.readText path
    (readers.assignments environment text).mapError fun cause => .settings (.unread cause)
  else .ok environment

def reference? (text : String) : Option String :=
  match text.toList with
  | '$' :: '\x7b' :: rest =>
    if rest.getLast? = some '\x7d' then some (String.ofList rest.dropLast) else none
  | _ => none

def resolveText (environment : Environment) (text : String) : Except Fault String :=
  match reference? text with
  | none => .ok text
  | some name =>
    match environment.value? name with
    | some value => .ok value
    | none => .error (.settings (.variable name))

def resolveCell (environment : Environment) (cells : Cells) (cell : Nat) : Except Fault Cells :=
  (environment.resolveText (cells cell)).map (Cells.put cells cell)

mutual
/-- Replace the references that are fields, at any depth of mappings. Lists are not gone into. -/
def resolve (environment : Environment) (cells : Cells) : Written → Except Fault Cells
  | .text cell => environment.resolveCell cells cell
  | .mapping fields => resolveWritten environment cells fields
  | _ => .ok cells

def resolveWritten (environment : Environment) (cells : Cells) : WrittenFields → Except Fault Cells
  | [] => .ok cells
  | (_, written) :: rest => do
    let cells ← resolve environment cells written
    resolveWritten environment cells rest
end

/-- The same for fields of which no two places share a mapping. -/
def resolveFields (environment : Environment) (fields : Fields) : Except Fault Fields :=
  let (written, sheet) := Sheet.empty.addFields fields
  (environment.resolveWritten sheet.cells written).map fun cells => Written.fieldsOf cells written

end TxTemplate.Environment
