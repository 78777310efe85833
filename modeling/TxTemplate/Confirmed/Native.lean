import TxTemplate.Json.Access
import TxTemplate.Template.Shorthand
import TxTemplate.TypedData.Scalar

set_option autoImplicit false

/-! Instructions that the node has parsed itself: the accounts that their info names, and their
data where the instruction is known. -/

namespace TxTemplate

structure NativeReading where
  accounts : List String
  data : Json

namespace NativeReading

def nothing : NativeReading := ⟨[], .null⟩

def addressValues : Json → List String
  | .obj fields =>
    fields.filterMap fun field =>
      match field.2 with
      | .str text => if Address.isText text then some text else none
      | _ => none
  | _ => []

def safeNumber : Json → Json
  | .int n => Scalar.safeInteger n
  | other => other

def transfer (info : Fields) : NativeReading where
  accounts :=
    [((info.lookup "source").getD (.str "")).display,
     ((info.lookup "destination").getD (.str "")).display]
  data := Shorthand.transferData (safeNumber ((info.lookup "lamports").getD .null))

/-- Names under which the info of a token account's creation lists its accounts. -/
def creationKeys : List String :=
  ["wallet", "account", "source", "mint", "systemProgram", "tokenProgram"]

def creationAccounts : Json → List String
  | .obj fields =>
    creationKeys.filterMap fun key =>
      match fields.lookup key with
      | some (.str text) => some text
      | _ => none
  | _ => []

def creationData (kind : Json) : Except Fault Json :=
  match kind with
  | .arr _ | .obj _ => .error (.shape .wrongKind)
  | .str "create" => .ok (.int 0)
  | .str "createIdempotent" => .ok (Shorthand.typed "u8" (.int 1))
  | _ => .ok .null

def literalData : Json → Json
  | .str text => .str text
  | .int n => .int n
  | .float x => .float x
  | _ => .null

def read (program : String) (parsed : Json) : Except Fault NativeReading :=
  match parsed with
  | .obj fields =>
    let kind := (fields.lookup "type").getD .null
    let info := (fields.lookup "info").getD .null
    if program = Address.systemProgram.text then
      match kind.isText "transfer", info with
      | true, .obj known => .ok (transfer known)
      | _, _ => .ok ⟨addressValues info, .null⟩
    else if program = Address.associatedTokenProgram.text then do
      let data ← creationData kind
      pure ⟨creationAccounts info, data⟩
    else .ok ⟨addressValues info, literalData info⟩
  | _ => .ok nothing

end NativeReading

/-- What stands for the data of a parsed instruction that is not known: its info, or all of it. -/
def parsedData : Json → Json
  | .obj fields => (fields.lookup "info").getD (.obj fields)
  | other => other

end TxTemplate
