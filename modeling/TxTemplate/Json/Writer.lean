import TxTemplate.Json.Basic

set_option autoImplicit false

/-! Writing JSON text in ASCII. Characters outside ASCII are written as code units in hexadecimal.
Stored documents put every item and field on a line of its own, indented by two blanks a level. -/

namespace TxTemplate.Json

def unitEscape (unit : Nat) : List Char := '\\' :: 'u' :: Text.hexDigits 4 unit

def escapeChar (c : Char) : List Char :=
  match c with
  | '"' => ['\\', '"']
  | '\\' => ['\\', '\\']
  | '\n' => ['\\', 'n']
  | '\r' => ['\\', 'r']
  | '\t' => ['\\', 't']
  | c =>
    let code := c.toNat
    if code = 8 then ['\\', 'b']
    else if code = 12 then ['\\', 'f']
    else if 0x20 ≤ code ∧ code < 0x7F then [c]
    else if code < 0x10000 then unitEscape code
    else
      let above := code - 0x10000
      unitEscape (0xD800 + above / 0x400) ++ unitEscape (0xDC00 + above % 0x400)

def quote (text : String) : String :=
  String.ofList ('"' :: (text.toList.flatMap escapeChar ++ ['"']))

def writeAtom : Json → String
  | .null => "null"
  | .bool value => if value then "true" else "false"
  | .int value => Decimal.intText value
  | .float value => Binary64.text "NaN" "Infinity" value
  | .str value => quote value
  | .arr _ => "[]"
  | .obj _ => "\x7b\x7d"

def newLine (level : Nat) : String := String.ofList ('\n' :: List.replicate (2 * level) ' ')

mutual
def writeAt (level : Nat) : Json → String
  | .arr (item :: rest) =>
    "[" ++ newLine (level + 1) ++
      String.intercalate ("," ++ newLine (level + 1)) (writeItems (level + 1) (item :: rest)) ++
      newLine level ++ "]"
  | .obj (field :: rest) =>
    "\x7b" ++ newLine (level + 1) ++
      String.intercalate ("," ++ newLine (level + 1)) (writeFields (level + 1) (field :: rest)) ++
      newLine level ++ "\x7d"
  | atom => writeAtom atom

def writeItems (level : Nat) : List Json → List String
  | [] => []
  | item :: rest => writeAt level item :: writeItems level rest

def writeFields (level : Nat) : Fields → List String
  | [] => []
  | (key, value) :: rest => (quote key ++ ": " ++ writeAt level value) :: writeFields level rest
end

def write (value : Json) : String := writeAt 0 value

mutual
def compact : Json → String
  | .arr items => "[" ++ String.intercalate ", " (compactItems items) ++ "]"
  | .obj fields => "\x7b" ++ String.intercalate ", " (compactFields fields) ++ "\x7d"
  | atom => writeAtom atom

def compactItems : List Json → List String
  | [] => []
  | item :: rest => compact item :: compactItems rest

def compactFields : Fields → List String
  | [] => []
  | (key, value) :: rest => (quote key ++ ": " ++ compact value) :: compactFields rest
end

end TxTemplate.Json
