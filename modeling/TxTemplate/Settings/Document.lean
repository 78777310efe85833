import TxTemplate.Json.Basic

set_option autoImplicit false

/-! Documents of settings. A document may refer to one mapping from several places, which then share
it. What can be changed about a mapping are its texts: each stands in a cell, and places that share
a mapping have its cells in common. A mapping that holds itself has no such form. -/

namespace TxTemplate

/-- What the cells hold. -/
abbrev Cells := Nat → String

def Cells.put (cells : Cells) (cell : Nat) (text : String) : Cells :=
  fun other => if other = cell then text else cells other

inductive Written where
  | null
  | bool (value : Bool)
  | int (value : Int)
  | float (value : Float)
  | text (cell : Nat)
  | list (items : List Written)
  | mapping (fields : List (String × Written))

abbrev WrittenFields := List (String × Written)

/-- A mapping with the cells of all that it holds, or a document that is none and may be empty. -/
inductive Document where
  | mapping (fields : WrittenFields) (cells : Cells)
  | other (filled : Bool)

namespace Written

mutual
def value (cells : Cells) : Written → Json
  | .null => .null
  | .bool value => .bool value
  | .int value => .int value
  | .float value => .float value
  | .text cell => .str (cells cell)
  | .list items => .arr (values cells items)
  | .mapping fields => .obj (fieldsOf cells fields)

def values (cells : Cells) : List Written → List Json
  | [] => []
  | item :: rest => value cells item :: values cells rest

def fieldsOf (cells : Cells) : WrittenFields → Fields
  | [] => []
  | (key, written) :: rest => (key, value cells written) :: fieldsOf cells rest
end

end Written

/-- What was written up to a place: the texts of the cells, in order, and what has a name. -/
structure Sheet where
  texts : List String
  anchors : List (String × Written)

namespace Sheet

def empty : Sheet := ⟨[], []⟩

def cells (sheet : Sheet) : Cells := fun cell => sheet.texts[cell]?.getD ""

def addText (sheet : Sheet) (text : String) : Written × Sheet :=
  (.text sheet.texts.length, { sheet with texts := sheet.texts ++ [text] })

/-- Write in another place what was written: a mapping is shared, a text is copied. -/
def again (sheet : Sheet) : Written → Written × Sheet
  | .text cell => sheet.addText (sheet.cells cell)
  | other => (other, sheet)

mutual
def add (sheet : Sheet) : Json → Written × Sheet
  | .null => (.null, sheet)
  | .bool value => (.bool value, sheet)
  | .int value => (.int value, sheet)
  | .float value => (.float value, sheet)
  | .str text => sheet.addText text
  | .arr items =>
    let (items, sheet) := addItems sheet items
    (.list items, sheet)
  | .obj fields =>
    let (fields, sheet) := addFields sheet fields
    (.mapping fields, sheet)

def addItems (sheet : Sheet) : List Json → List Written × Sheet
  | [] => ([], sheet)
  | item :: rest =>
    let (item, sheet) := add sheet item
    let (rest, sheet) := addItems sheet rest
    (item :: rest, sheet)

def addFields (sheet : Sheet) : Fields → WrittenFields × Sheet
  | [] => ([], sheet)
  | (key, value) :: rest =>
    let (written, sheet) := add sheet value
    let (rest, sheet) := addFields sheet rest
    ((key, written) :: rest, sheet)
end

end Sheet

end TxTemplate
