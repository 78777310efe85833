import TxTemplate.Bytes.Hex
import TxTemplate.Node.Script

set_option autoImplicit false

/-! Recordings of a node: the document form of its accounts and answers. Parts that are left out
stand for a node that knows of nothing. -/

namespace TxTemplate.Recording

def fieldOf (document : Json) (key : String) : Json :=
  match document with
  | .obj fields => (fields.lookup key).getD .null
  | _ => .null

def fieldsOf : Json → Fields
  | .obj fields => fields
  | _ => []

def itemsOf : Json → List Json
  | .arr items => items
  | _ => []

def naturalOf : Json → Nat
  | .int n => n.toNat
  | _ => 0

def integerOf : Json → Int
  | .int n => n
  | _ => 0

def addressOf : Json → Address
  | .str text => (Address.read text).toOption.getD Address.systemProgram
  | _ => Address.systemProgram

def bytesOf : Json → Bytes
  | .str text => (Hex.decode text.toList).getD []
  | _ => []

def accountOf (document : Json) : Account where
  lamports := naturalOf (fieldOf document "lamports")
  data := bytesOf (fieldOf document "data")
  owner := addressOf (fieldOf document "owner")
  executable := (fieldOf document "executable").isTruthy
  rentEpoch := naturalOf (fieldOf document "rent_epoch")

/-- A fault by its kind and its text; anything else is none. -/
def faultOf? (kindOf : String → NodeFaultKind) : Json → Option NodeFault
  | .arr [.str kind, .str text] => some ⟨kindOf kind, text⟩
  | _ => none

def sendOf (kindOf : String → NodeFaultKind) (entry : Json) : Except NodeFault String :=
  match faultOf? kindOf entry with
  | some fault => .error fault
  | none => .ok Node.signature

def textOf? : Json → Option String
  | .str text => some text
  | _ => none

/-- The node of a recording. The function tells what the words for kinds of faults mean. -/
def node (kindOf : String → NodeFaultKind) (document : Json) : Node where
  accounts := (fieldsOf (fieldOf document "accounts")).filterMap fun field =>
    (Address.read field.1).toOption.map fun address => (address, accountOf field.2)
  balances := (itemsOf (fieldOf document "balances")).map integerOf
  tokenBalance := textOf? (fieldOf document "token_balance")
  blockhash := addressOf (fieldOf document "blockhash")
  sends := (itemsOf (fieldOf document "send")).map (sendOf kindOf)
  answers := (fieldsOf (fieldOf document "post")).map fun field => (field.1, itemsOf field.2)
  interruptions := (itemsOf (fieldOf document "interruptions")).map (faultOf? kindOf)

def kindNamed : String → NodeFaultKind
  | "rejected" => .rejected
  | "transport" => .transport
  | "value" => .value
  | "system" => .system "system"
  | name => .other name

end TxTemplate.Recording
