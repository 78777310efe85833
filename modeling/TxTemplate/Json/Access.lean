import TxTemplate.Fault

set_option autoImplicit false

/-! Parts of JSON values whose shape is not known. Asking a value for a part that its kind cannot
have is a fault of shape. -/

namespace TxTemplate.Json

def field? (value : Json) (key : String) : Except Fault (Option Json) :=
  match value with
  | .obj fields => .ok (fields.lookup key)
  | _ => .error (.shape .noFields)

def fieldOrNull (value : Json) (key : String) : Except Fault Json :=
  match value with
  | .obj fields => .ok ((fields.lookup key).getD .null)
  | _ => .error (.shape .noFields)

def member (value : Json) (key : String) : Except Fault Json :=
  match value with
  | .obj fields =>
    match fields.lookup key with
    | some found => .ok found
    | none => .error (.shape .absentKey)
  | _ => .error (.shape .wrongKind)

def itemAt (value : Json) (index : Nat) : Except Fault Json :=
  match value with
  | .arr items =>
    match items[index]? with
    | some item => .ok item
    | none => .error (.shape .wrongKind)
  | .str text =>
    match text.toList[index]? with
    | some c => .ok (.str (String.singleton c))
    | none => .error (.shape .wrongKind)
  | .obj _ => .error (.shape .absentKey)
  | _ => .error (.shape .wrongKind)

def elements : Json → Except Fault (List Json)
  | .arr items => .ok items
  | .str text => .ok (text.toList.map fun c => .str (String.singleton c))
  | .obj fields => .ok (fields.map fun field => .str field.1)
  | _ => .error (.shape .wrongKind)

def size : Json → Except Fault Nat
  | .arr items => .ok items.length
  | .str text => .ok text.length
  | .obj fields => .ok fields.length
  | _ => .error (.shape .wrongKind)

def occursIn (part : List Char) : List Char → Bool
  | [] => part.isEmpty
  | c :: rest => part.isPrefixOf (c :: rest) || occursIn part rest

def contains (value : Json) (text : String) : Except Fault Bool :=
  match value with
  | .arr items => .ok (items.any (isText text))
  | .str whole => .ok (occursIn text.toList whole.toList)
  | .obj fields => .ok (fields.lookup text).isSome
  | _ => .error (.shape .wrongKind)

end TxTemplate.Json
