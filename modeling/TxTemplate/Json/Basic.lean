import TxTemplate.Decimal.Binary64
import TxTemplate.Decimal.Numeral
import TxTemplate.Text.Quoted

set_option autoImplicit false

/-! JSON values. Whole numbers of any size and doubles are kept apart, and the fields of an object
keep the order in which they were written. -/

namespace TxTemplate

inductive Json where
  | null
  | bool (value : Bool)
  | int (value : Int)
  | float (value : Float)
  | str (value : String)
  | arr (items : List Json)
  | obj (fields : List (String × Json))
  deriving Inhabited

abbrev Fields := List (String × Json)

instance : Coe String Json := ⟨.str⟩

namespace Json

/-- Give a field a value: in its place if the key is there, at the end otherwise. -/
def setField {α : Type} (key : String) (value : α) : List (String × α) → List (String × α)
  | [] => [(key, value)]
  | (other, old) :: rest =>
    if other = key then (key, value) :: rest else (other, old) :: setField key value rest

def setFields (fields updates : Fields) : Fields :=
  updates.foldl (fun done update => setField update.1 update.2 done) fields

/-- Values that count as present: all but null, false, nought, and empty text, lists and objects. -/
def isTruthy : Json → Bool
  | .null => false
  | .bool value => value
  | .int value => value != 0
  | .float value => value != 0.0
  | .str value => value != ""
  | .arr items => !items.isEmpty
  | .obj fields => !fields.isEmpty

def orElse (value fallback : Json) : Json := if value.isTruthy then value else fallback

def isText (text : String) : Json → Bool
  | .str value => value = text
  | _ => false

mutual
/-- The value as messages show it: text in quotes, names of constants capitalised. -/
def inspect : Json → String
  | .null => "None"
  | .bool value => if value then "True" else "False"
  | .int value => Decimal.intText value
  | .float value => Binary64.text "nan" "inf" value
  | .str value => Text.quoted value
  | .arr items => "[" ++ String.intercalate ", " (inspectItems items) ++ "]"
  | .obj fields => "\x7b" ++ String.intercalate ", " (inspectFields fields) ++ "\x7d"

def inspectItems : List Json → List String
  | [] => []
  | item :: rest => inspect item :: inspectItems rest

def inspectFields : Fields → List String
  | [] => []
  | (key, value) :: rest => (Text.quoted key ++ ": " ++ inspect value) :: inspectFields rest
end

/-- The value as plain text: text as it is, anything else as messages show it. -/
def display : Json → String
  | .str value => value
  | other => other.inspect

mutual
/-- Messages can show the value: all whole numbers in it can be written. -/
def isWritable : Json → Bool
  | .int value => Decimal.isWritable value
  | .arr items => itemsWritable items
  | .obj fields => fieldsWritable fields
  | _ => true

def itemsWritable : List Json → Bool
  | [] => true
  | item :: rest => isWritable item && itemsWritable rest

def fieldsWritable : Fields → Bool
  | [] => true
  | (_, value) :: rest => isWritable value && fieldsWritable rest
end

end Json

end TxTemplate
