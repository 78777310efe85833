import TxTemplate.Address.Basic
import TxTemplate.TypedData.Scalar

set_option autoImplicit false

/-! Unpacking: a schema of typed values read against bytes gives the schema back with its data
members filled in. The width of what was read tells where the next entry starts. -/

namespace TxTemplate.TypedData

def declaredSize (fields : Fields) (keys : List String) : Except Fault Int :=
  let sizes := keys.filterMap fun key =>
    match fields.lookup key with
    | some (.int n) => some n
    | _ => none
  match sizes with
  | size :: _ => .ok size
  | [] =>
    .error (.codec (.missing (.inSchema (keys.headD "") ((fields.lookup "type").getD .null))))

mutual
/-- The number of bytes that an unpacked value covers. -/
def width : Json → Except Fault Int
  | .obj fields =>
    match (fields.lookup "type").getD .null with
    | .null => .error (.codec (.missing .kind))
    | member =>
      match Kind.ofMember .measured member with
      | .error fault => .error fault
      | .ok .bytes => declaredSize fields ["size"]
      | .ok .string => declaredSize fields ["length"]
      | .ok .object => membersWidth fields
      | .ok kind => .ok (kind.fixedWidth?.getD 0)
  | other => .error (.codec (.unsupportedKind (.notTyped other)))

def membersWidth : Fields → Except Fault Int
  | [] => .error (.codec (.missing .objectData))
  | (key, value) :: rest =>
    if key = "data" then
      match value with
      | .arr items => entriesWidth items
      | _ => .error (.codec (.missing .objectData))
    else membersWidth rest

def entriesWidth : List Json → Except Fault Int
  | [] => .ok 0
  | entry :: rest => do
    let first ← width entry
    let more ← entriesWidth rest
    pure (first + more)
end

/-- The bytes between two positions; a negative end counts from the end of the buffer. -/
def slice (buffer : Bytes) (start stop : Int) : Bytes :=
  let stop := if stop < 0 then max 0 (stop + buffer.length) else stop
  (buffer.take stop.toNat).drop start.toNat

/-- So many bytes at an offset, which must lie inside the buffer. -/
def readAt (buffer : Bytes) (offset size : Int) : Except Fault Bytes :=
  if offset < 0 ∨ (buffer.length : Int) < offset + size then
    .error (.codec (.outOfBounds size offset buffer.length))
  else .ok (slice buffer offset (offset + size))

/-- The data of a word. Only the widest words go beyond what every reader can hold. -/
def wordData (kind : WordKind) (bytes : Bytes) : Json :=
  match kind with
  | .u64 => Scalar.safeInteger (LittleEndian.decode bytes)
  | _ => .int (LittleEndian.decode bytes)

def unpackLeaf (buffer : Bytes) (kind : Kind) (fields : Fields) (offset : Int) :
    Except Fault Json :=
  match kind with
  | .word word => do
    let bytes ← readAt buffer offset word.width
    pure (.obj (Json.setField "data" (wordData word bytes) fields))
  | .boolean => do
    let bytes ← readAt buffer offset 1
    pure (.obj (Json.setField "data" (.bool (bytes.any (· != 0))) fields))
  | .pubkey => do
    let bytes ← readAt buffer offset 32
    pure (.obj (Json.setField "data" (.str (Base58.text bytes)) fields))
  | .bytes => do
    let size ← declaredSize fields ["size", "Size"]
    let bytes ← readAt buffer offset size
    pure (.obj (Json.setFields fields [("size", .int size), ("data", .str (Base64.text bytes))]))
  | .string => do
    let length ← declaredSize fields ["length"]
    let bytes ← readAt buffer offset length
    pure (.obj (Json.setFields fields [("length", .int length), ("data", .str (Utf8.text bytes))]))
  | .object => .error (.codec (.missing .objectData))

def objectHead (fields : Fields) : Fields :=
  match fields.lookup "name" with
  | some name => [("type", .str "object"), ("name", name)]
  | none => [("type", .str "object")]

mutual
def unpack (buffer : Bytes) : Json → Int → Except Fault Json
  | .arr schemas, offset => do
    let items ← unpackEntries buffer schemas offset
    pure (.arr items)
  | .obj fields, offset =>
    match (fields.lookup "type").getD .null with
    | .null => .error (.codec (.missing .schemaKind))
    | member =>
      match Kind.ofMember .unpacked member with
      | .error fault => .error fault
      | .ok .object => do
        let items ← unpackMembers buffer fields offset
        pure (.obj (objectHead fields ++ [("data", .arr items)]))
      | .ok kind => unpackLeaf buffer kind fields offset
  | _, _ => .error (.codec (.unsupportedKind .schemaShape))

def unpackMembers (buffer : Bytes) : Fields → Int → Except Fault (List Json)
  | [], _ => .error (.codec (.missing .objectData))
  | (key, value) :: rest, offset =>
    if key = "data" then
      match value with
      | .arr schemas => unpackEntries buffer schemas offset
      | _ => .error (.codec (.missing .objectData))
    else unpackMembers buffer rest offset

/-- Entries one behind the other, each as wide as what was read for it. -/
def unpackEntries (buffer : Bytes) : List Json → Int → Except Fault (List Json)
  | [], _ => .ok []
  | schema :: rest, offset => do
    let item ← unpack buffer schema offset
    let covered ← width item
    let items ← unpackEntries buffer rest (offset + covered)
    pure (item :: items)
end

end TxTemplate.TypedData
