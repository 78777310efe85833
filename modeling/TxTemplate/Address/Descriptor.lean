import TxTemplate.Address.Derivation
import TxTemplate.Placeholder

set_option autoImplicit false

/-! Address descriptors: the text of an address, a placeholder, the tag of a program, an object
that names a program by its tag, or an object that names the token account of an owner for a mint,
each again by a descriptor. -/

namespace TxTemplate.Descriptor

def associated (owner mint : Json) : Json :=
  .obj [("type", .str "ata"), ("owner", owner), ("mint", mint)]

/-- The address of a text that is no placeholder any more: a tag, or the address itself. -/
def resolveText (text : String) : Except Fault Address :=
  match Address.ofTag? text with
  | some address => .ok address
  | none => Address.parse text

def resolveKind (kind : Json) : Except Fault Address :=
  match kind with
  | .arr _ | .obj _ => .error (.shape .wrongKind)
  | .str tag =>
    match Address.ofTag? tag with
    | some address => .ok address
    | none => .error (.codec (.unsupportedDescriptor kind))
  | _ => .error (.codec (.unsupportedDescriptor kind))

/-- The kind of an object; null where it has none. -/
def kindOf (fields : Fields) : Json := (fields.lookup "type").getD .null

mutual
def resolve (params : Params) : Json → Except Fault Address
  | .obj fields =>
    if (kindOf fields).isText "ata" then do
      if (fields.lookup "owner").isNone then throw (.codec (.missing (.inDescriptor "owner")))
      if (fields.lookup "mint").isNone then throw (.codec (.missing (.inDescriptor "mint")))
      let owner ← resolveField params "owner" fields
      let mint ← resolveField params "mint" fields
      Address.associated owner mint
    else resolveKind (kindOf fields)
  | .str text =>
    match Placeholder.resolve params (.str text) with
    | .error fault => .error fault
    | .ok resolved => resolveText resolved.display
  | other => .error (.codec (.invalidAddress (.shape other)))

def resolveField (params : Params) (key : String) : Fields → Except Fault Address
  | [] => .error (.codec (.missing (.inDescriptor key)))
  | (other, value) :: rest =>
    if other = key then resolve params value else resolveField params key rest
end

end TxTemplate.Descriptor
