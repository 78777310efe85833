import TxTemplate.Session
import TxTemplate.Template.Compile
import TxTemplate.TypedData.Unpack

set_option autoImplicit false

/-! Reformatting: the data of an instruction in a stored template is packed and read back through a
schema, and the template is stored again. Its file is opened for that only when all else is done,
since opening it empties it. Storing a document may stop short, and leaves what it wrote. -/

namespace TxTemplate.Reformat

/-- What comes of storing a document in an open file: a text, and the fault that cut it short. -/
structure Dumped where
  text : String
  stop : Option Fault

abbrev Dumper := Json → Dumped

/-- The dumper that no document stops. -/
def whole : Dumper := fun document => ⟨Json.write document, none⟩

def schemaIn (directory : Directory) (path : String) : Except Fault Json := do
  match ← directory.readDocument path with
  | .ok schema => pure schema
  | .error cause => throw (.document path cause)

def names (program : String) (instruction : InstructionTemplate) : Bool :=
  instruction.program.isText program

def reread (schema data : Json) : Traced Json := do
  let bytes ← TypedData.pack [] data
  TypedData.unpack bytes schema 0

/-- Whether an instruction names what was given for a program. What was given may be no text but an
empty list, which is named by an empty list only. -/
def namesGiven : Option String → InstructionTemplate → Bool
  | some program, instruction => names program instruction
  | none, instruction =>
    match instruction.program with
    | .arr [] => true
    | _ => false

def shownGiven : Option String → String
  | some program => program
  | none => (Json.arr []).display

def templateWhere (wanted : InstructionTemplate → Bool) (shown : String) (schema : Json)
    (template : TransactionTemplate) : Traced TransactionTemplate := do
  let before := template.instructions.takeWhile fun instruction => !wanted instruction
  match template.instructions.dropWhile fun instruction => !wanted instruction with
  | [] => throw (.job (.programAbsent shown))
  | target :: after =>
    let data ← reread schema target.data
    pure { template with instructions := before ++ { target with data := data } :: after }

def updated (shown : String) : String := "Updated data format for instruction in program " ++ shown

/-- The template to be stored: the one that was there, with the new data. It is read first; an empty
list is no path of a schema. -/
def prepared (directory : Directory) (templatePath : String) (schemaPath program : Option String) :
    Traced TransactionTemplate := do
  let stored ← TransactionTemplate.load directory templatePath
  match schemaPath with
  | none => throw (.shape .wrongKind)
  | some schemaPath =>
    let schema ← schemaIn directory schemaPath
    templateWhere (namesGiven program) (shownGiven program) schema stored

/-- Store a template. Opening its file empties it, whatever is written then. -/
def store (dump : Dumper) (path : String) (template : TransactionTemplate) : Action Unit := do
  Action.write path (.text "")
  let dumped := dump template.toJson
  Action.write path (.text dumped.text)
  match dumped.stop with
  | none => pure ()
  | some fault => throw fault

def run (dump : Dumper) (templatePath : String) (schemaPath program : Option String) :
    Action Unit := do
  let directory ← Action.files
  let changed ← Action.ofTraced (prepared directory templatePath schemaPath program)
  store dump templatePath changed
  Action.note .reformatting .info (updated (shownGiven program))

def files (directory : Directory) (templatePath schemaPath program : String) : Traced Directory :=
  let (outcome, after) := StateT.run
    (ExceptT.run (run whole templatePath (some schemaPath) (some program)))
    (Session.start directory [] Node.silent)
  ⟨after.notes, outcome.map fun _ => after.directory⟩

end TxTemplate.Reformat
