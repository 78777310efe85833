import TxTemplate.Json.Reader
import TxTemplate.Settings.Environment

set_option autoImplicit false

/-! What documents mention: texts that may be paths of other files, from the top or beside the
document, and references to variables. A run needs no file and no variable beside those that its
command line and the documents reached from it mention. -/

namespace TxTemplate.Mentions

mutual
def texts : Json → List String
  | .str text => [text]
  | .arr items => textsOfItems items
  | .obj fields => textsOfFields fields
  | _ => []

def textsOfItems : List Json → List String
  | [] => []
  | item :: rest => texts item ++ textsOfItems rest

def textsOfFields : Fields → List String
  | [] => []
  | (_, value) :: rest => texts value ++ textsOfFields rest
end

def ofText (text : String) : List String :=
  match Json.read text, Readers.plain.document text with
  | .ok document, _ => texts document
  | .error _, .ok (.mapping written cells) => textsOfFields (Written.fieldsOf cells written)
  | .error _, _ => []

def paths (path : String) (found : List String) : List String :=
  found ++ found.map (Path.join (Path.folderOf path))

def variableNames (found : List String) : List String := found.filterMap Environment.reference?

end TxTemplate.Mentions
