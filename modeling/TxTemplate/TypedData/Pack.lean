import TxTemplate.Address.Descriptor
import TxTemplate.Journal
import TxTemplate.TypedData.Scalar

set_option autoImplicit false

/-! Packing: the bytes of a data value. Literals are read by their shape: null is empty, a truth
value is a byte, a number reserves that many zero bytes, a text is decoded, a list is a byte per
entry. An object is a typed value. The entries of a typed object may themselves be given as the
text of a list, which is read as a document of its own; such texts may be nested only so deep. -/

namespace TxTemplate.TypedData

/-- Counts from here on are no machine words. -/
def countLimit : Nat := Nat.pow 2 63

/-- A string of so many bytes cannot be asked for: its header takes 33 bytes of a machine word. -/
def bufferLimit : Nat := countLimit - 33

def reserve (value : Json) : Except Fault Bytes :=
  match Scalar.natural value with
  | .error fault => .error fault
  | .ok count => if bufferLimit ≤ count then .error .countTooLarge else .ok (List.replicate count 0)

/-- Bytes cut or filled up with zero bytes to a size. A negative size cuts that many off the end.
Cutting is always possible; filling up is refused for sizes that no string of bytes has. -/
def fit (size : Int) (bytes : Bytes) : Except Fault Bytes :=
  if 0 ≤ size then
    if size ≤ bytes.length then .ok (bytes.take size.toNat)
    else if (bufferLimit : Int) ≤ size then .error .countTooLarge
    else .ok (bytes ++ List.replicate (size.toNat - bytes.length) 0)
  else if size < -(countLimit : Int) then .error .countTooLarge
  else .ok (bytes.take (bytes.length - size.natAbs))

def entryValue (item : Json) : Except Fault Int :=
  match item with
  | .bool flag => .ok (if flag then 1 else 0)
  | .int n => .ok n
  | .str text =>
    match Scalar.readTrimmed text with
    | .ok n => .ok n
    | .error _ => .error (.codec (.invalidEncoding (.entryNumeral text)))
  | _ => .error (.codec (.invalidEncoding (.entry item)))

/-- The note that a number was cut to a byte; it shows the number. -/
def noteCut (value : Int) : Traced Unit :=
  if Decimal.isWritable value then
    Traced.note .packing .warning
      ("Array entry " ++ Decimal.intText value ++ " does not fit in a byte, truncating")
  else Traced.fail Fault.unwritable

/-- The byte of a list entry. Numbers outside the signed and unsigned bytes are cut with a note. -/
def packEntry (params : Params) (item : Json) : Traced UInt8 := do
  let resolved ← Placeholder.resolve params item
  let value ← entryValue resolved
  if value < -128 ∨ 255 < value then noteCut value
  pure (UInt8.ofNat (value.emod 256).toNat)

def packArray (params : Params) : List Json → Traced Bytes
  | [] => pure []
  | item :: rest => do
    let byte ← packEntry params item
    let bytes ← packArray params rest
    pure (byte :: bytes)

/-- The declared length of a text, where it is a number; truth values count as one and nought. -/
def textLength? (fields : Fields) : Option Int :=
  match fields.lookup "length" with
  | some (.int n) => some n
  | some (.bool flag) => some (if flag then 1 else 0)
  | _ => none

/-- The declared size of a byte string, under either spelling. -/
def byteSize? (fields : Fields) : Option Int :=
  match fields.lookup "size" with
  | some (.int n) => some n
  | some _ => none
  | none =>
    match fields.lookup "Size" with
    | some (.int n) => some n
    | _ => none

def fitTo (size : Option Int) (bytes : Bytes) : Except Fault Bytes :=
  match size with
  | some size => fit size bytes
  | none => .ok bytes

def packText (fields : Fields) (text : String) : Except Fault Bytes :=
  fitTo (textLength? fields) (Utf8.bytes text)

def entriesOfText (text : String) : Except Fault (List Json) :=
  match text.toList.dropWhile Text.isBlank with
  | first :: _ =>
    if first = '[' ∨ first = '\x7b' then
      match Json.read text with
      | .ok (.arr items) => .ok items
      | .ok _ => .error (.codec (.unsupportedKind .objectShape))
      | .error (.longNumeral digits) => .error (.numeral text (.tooLong digits))
      | .error _ => .error (.codec (.unsupportedKind (.objectText text)))
    else .error (.codec (.unsupportedKind .objectShape))
  | [] => .error (.codec (.unsupportedKind .objectShape))

def kindOf (fields : Fields) : Except Fault Kind :=
  match fields.lookup "type" with
  | none => .error (.codec (.missing (.inValue "type" (.str "data"))))
  | some member => Kind.ofMember .packed member

def packEach (packOne : Json → Traced Bytes) : List Json → Traced Bytes
  | [] => pure []
  | entry :: rest => do
    let bytes ← packOne entry
    let more ← packEach packOne rest
    pure (bytes ++ more)

mutual
/-- The bytes of a value. Entries that were read from a text are packed by the first argument. -/
def packWith (onEntries : List Json → Traced Bytes) (params : Params) : Json → Traced Bytes
  | .null => pure []
  | .bool flag => pure [if flag then 1 else 0]
  | .int n => Traced.quiet (reserve (.int n))
  | .float x => Traced.quiet (reserve (.float x))
  | .str text => do
    let resolved ← Placeholder.resolve params (.str text)
    Traced.quiet (Scalar.bytesOfText resolved.display)
  | .arr items => packArray params items
  | .obj fields => do
    let kind ← kindOf fields
    packMember onEntries params kind fields fields

/-- The bytes of a typed value of a kind, from its data member, the first in the last argument. -/
def packMember (onEntries : List Json → Traced Bytes) (params : Params) (kind : Kind)
    (whole : Fields) : Fields → Traced Bytes
  | [] => Traced.fail (.codec (.missing (.inValue "data" (.str kind.name))))
  | (key, value) :: rest =>
    if key = "data" then
      match kind with
      | .word word => do
        let resolved ← Placeholder.resolve params value
        let n ← Scalar.natural resolved
        Traced.quiet (Scalar.packWord word n)
      | .boolean => do
        let resolved ← Placeholder.resolve params value
        let flag ← Scalar.boolean resolved
        pure [if flag then 1 else 0]
      | .pubkey => do
        let address ← Descriptor.resolve params value
        pure address.bytes
      | .bytes => do
        let bytes ← packWith onEntries params value
        Traced.quiet (fitTo (byteSize? whole) bytes)
      | .string =>
        match value with
        | .str text => do
          let resolved ← Placeholder.resolve params (.str text)
          Traced.quiet (packText whole resolved.display)
        | other => packWith onEntries params other
      | .object =>
        match value with
        | .arr items => packEntries onEntries params items
        | .str text => do
          let resolved ← Placeholder.resolve params (.str text)
          let entries ← entriesOfText resolved.display
          onEntries entries
        | _ => Traced.fail (.codec (.unsupportedKind .objectShape))
    else packMember onEntries params kind whole rest

def packEntries (onEntries : List Json → Traced Bytes) (params : Params) :
    List Json → Traced Bytes
  | [] => pure []
  | entry :: rest => do
    let bytes ← packWith onEntries params entry
    let more ← packEntries onEntries params rest
    pure (bytes ++ more)
end

def packNested : Nat → Params → Json → Traced Bytes
  | 0, params => packWith (fun _ => Traced.fail .nestedTooDeeply) params
  | depth + 1, params =>
    packWith (fun entries => packEach (packNested depth params) entries) params

/-- How many calls may be open at once. -/
def callLimit : Nat := 1000

/-- How many levels of entries may be given as text. A level takes four calls: for the value, for
its kind, for its entries, and for one of them. -/
def nestingLimit : Nat := callLimit / 4

def pack (params : Params) (value : Json) : Traced Bytes := packNested nestingLimit params value

end TxTemplate.TypedData
