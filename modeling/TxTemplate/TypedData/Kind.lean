import TxTemplate.Fault

set_option autoImplicit false

/-! The kinds of typed values: words of one to eight bytes, truth values, addresses, byte strings,
texts, and objects that list further values. -/

namespace TxTemplate

inductive WordKind where
  | u8
  | u16
  | u32
  | u64
  deriving Repr, DecidableEq

namespace WordKind

def width : WordKind → Nat
  | .u8 => 1
  | .u16 => 2
  | .u32 => 4
  | .u64 => 8

def name : WordKind → String
  | .u8 => "u8"
  | .u16 => "u16"
  | .u32 => "u32"
  | .u64 => "u64"

end WordKind

inductive Kind where
  | word (kind : WordKind)
  | boolean
  | pubkey
  | bytes
  | string
  | object
  deriving Repr, DecidableEq

namespace Kind

def name : Kind → String
  | .word kind => kind.name
  | .boolean => "boolean"
  | .pubkey => "pubkey"
  | .bytes => "bytes"
  | .string => "string"
  | .object => "object"

def all : List Kind :=
  [.word .u8, .word .u16, .word .u32, .word .u64, .boolean, .pubkey, .bytes, .string, .object]

def ofName? (name : String) : Option Kind := all.find? fun kind => kind.name == name

def fixedWidth? : Kind → Option Nat
  | .word kind => some kind.width
  | .boolean => some 1
  | .pubkey => some 32
  | _ => none

/-- The kind that a member names. A list or an object names nothing and cannot be looked up. -/
def ofMember (unknown : Json → KindFault) (member : Json) : Except Fault Kind :=
  match member with
  | .arr _ | .obj _ => .error (.shape .wrongKind)
  | .str name =>
    match ofName? name with
    | some kind => .ok kind
    | none => .error (.codec (.unsupportedKind (unknown member)))
  | _ => .error (.codec (.unsupportedKind (unknown member)))

end Kind

end TxTemplate
