import TxTemplate.Fault

set_option autoImplicit false

/-! Paths as text: joining, splitting at the last slash, and the steps a path walks. -/

namespace TxTemplate.Path

/-- A name below a folder; a name that starts with a slash stands for itself. -/
def join (folder name : String) : String :=
  if name.toList.head? = some '/' then name
  else if folder.isEmpty then name
  else if folder.toList.getLast? = some '/' then folder ++ name
  else folder ++ "/" ++ name

def dropEndSlashes (text : List Char) : List Char := Text.dropEndWhile (· == '/') text

def splitLast (path : List Char) : List Char × List Char :=
  let tail := (path.reverse.takeWhile fun c => c != '/').reverse
  let head := path.take (path.length - tail.length)
  let bare := dropEndSlashes head
  (if bare.isEmpty then head else bare, tail)

def folderOf (path : String) : String := String.ofList (splitLast path.toList).1

def steps : List Char → List (List Char)
  | [] => [[]]
  | c :: rest =>
    match steps rest with
    | [] => [[c]]
    | first :: more => if c = '/' then [] :: first :: more else (c :: first) :: more

end TxTemplate.Path
