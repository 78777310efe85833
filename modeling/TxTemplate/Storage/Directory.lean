import TxTemplate.Bytes.Utf8
import TxTemplate.Storage.Path

set_option autoImplicit false

/-! A directory of files and folders, and what can be done with it by path. An operation gives the
directory after it, or a fault and leaves the directory as it was; only making a row of folders
keeps those that it made before a fault. -/

namespace TxTemplate

inductive Content where
  | text (text : String)
  | binary (bytes : Bytes)
  deriving DecidableEq, Repr

inductive Entry where
  | file (content : Content)
  | folder
  deriving DecidableEq, Repr

abbrev Place := List String

/-- What is there, each entry under its place. The top is always a folder. -/
structure Directory where
  entries : List (Place × Entry)
  deriving DecidableEq, Repr

namespace Directory

def empty : Directory := ⟨[]⟩

def entry? (directory : Directory) (place : Place) : Option Entry :=
  if place = [] then some .folder else directory.entries.lookup place

/-- Put an entry at a place: over the one that is there, or behind all others. -/
def putEntry (place : Place) (entry : Entry) : List (Place × Entry) → List (Place × Entry)
  | [] => [(place, entry)]
  | (other, old) :: rest =>
    if other = place then (place, entry) :: rest else (other, old) :: putEntry place entry rest

def put (directory : Directory) (place : Place) (entry : Entry) : Directory :=
  ⟨putEntry place entry directory.entries⟩

def nameLimit : Nat := 255

def pathLimit : Nat := 4095

/-- Follow the names of a path. Every name but the last leads to a folder. -/
def walk (directory : Directory) (path : String) :
    Place → List (List Char) → Except StorageFault Place
  | here, [] => .ok here
  | here, name :: rest =>
    match directory.entry? here with
    | none => .error (.absent path)
    | some (.file _) => .error (.notDirectory path)
    | some .folder =>
      if name = [] ∨ name = ['.'] then walk directory path here rest
      else if name = ['.', '.'] then
        if here = [] then .error (.absent path) else walk directory path here.dropLast rest
      else if nameLimit < (String.ofList name).utf8ByteSize then .error (.longName path)
      else walk directory path (here ++ [String.ofList name]) rest

def follow (directory : Directory) (path : String) (names : List (List Char)) :
    Except StorageFault Place :=
  if path.toList.contains (Char.ofNat 0) then .error .nulInPath
  else if path.isEmpty ∨ path.toList.head? = some '/' then .error (.absent path)
  else if pathLimit < path.utf8ByteSize then .error (.longName path)
  else walk directory path [] names

/-- The place that a path leads to, whether or not something is there. -/
def locate (directory : Directory) (path : String) : Except StorageFault Place :=
  directory.follow path (Path.steps path.toList)

def at? (directory : Directory) (path : String) : Option Entry :=
  match directory.locate path with
  | .ok place => directory.entry? place
  | .error _ => none

def has (directory : Directory) (path : String) : Bool := (directory.at? path).isSome

def hasFile (directory : Directory) (path : String) : Bool :=
  match directory.at? path with
  | some (.file _) => true
  | _ => false

def hasFolder (directory : Directory) (path : String) : Bool :=
  directory.at? path == some .folder

def plainLines : List Char → List Char
  | '\r' :: '\n' :: rest => '\n' :: plainLines rest
  | '\r' :: rest => '\n' :: plainLines rest
  | c :: rest => c :: plainLines rest
  | [] => []

def read (directory : Directory) (path : String) : Except StorageFault Content := do
  let place ← directory.locate path
  match directory.entry? place with
  | none => .error (.absent path)
  | some .folder => .error (.directory path)
  | some (.file content) => .ok content

def readText (directory : Directory) (path : String) : Except Fault String :=
  match directory.read path with
  | .error fault => .error (.storage fault)
  | .ok (.text text) => .ok (String.ofList (plainLines text.toList))
  | .ok (.binary bytes) =>
    if Utf8.isText bytes then .ok (String.ofList (plainLines (Utf8.decode bytes)))
    else .error (.shape .notText)

/-- Give a file its content; its folder has to be there. -/
def write (directory : Directory) (path : String) (content : Content) :
    Except Fault Directory :=
  match directory.locate path with
  | .error fault => .error (.storage fault)
  | .ok place =>
    match directory.entry? place with
    | some .folder => .error (.storage (.directory path))
    | _ => .ok (directory.put place (.file content))

/-- Make a folder where nothing is. Slashes at the end of the path lead nowhere. -/
def makeFolder (directory : Directory) (path : String) : Except StorageFault Directory := do
  let place ← directory.follow path (Path.steps (Path.dropEndSlashes path.toList))
  match directory.entry? place with
  | some _ => .error (.present path)
  | none => .ok (directory.put place .folder)

def ensureFolder (directory : Directory) (path : String) : Except StorageFault Unit × Directory :=
  match directory.makeFolder path with
  | .ok made => (.ok (), made)
  | .error fault => (if directory.hasFolder path then .ok () else .error fault, directory)

/-- Make the folders that a path leads through, and the last one. What was made before a fault
stays. The first argument bounds the number of slashes. -/
def makeFoldersUpTo : Nat → Directory → List Char → Except StorageFault Unit × Directory
  | 0, directory, path => directory.ensureFolder (String.ofList path)
  | slashes + 1, directory, path =>
    let whole := Path.splitLast path
    let (head, tail) := if whole.2.isEmpty then Path.splitLast whole.1 else whole
    if !head.isEmpty && !tail.isEmpty && !directory.has (String.ofList head) then
      match makeFoldersUpTo slashes directory head with
      | (.ok (), made) | (.error (.present _), made) =>
        if tail = ['.'] then (.ok (), made) else made.ensureFolder (String.ofList path)
      | (.error fault, made) => (.error fault, made)
    else directory.ensureFolder (String.ofList path)

def makeFolders (directory : Directory) (path : String) : Except Fault Unit × Directory :=
  let (outcome, made) := makeFoldersUpTo path.length directory path.toList
  (outcome.mapError .storage, made)

def addFile (directory : Directory) (path : String) (content : Content) : Directory :=
  let made := (directory.makeFolders (Path.folderOf path)).2
  (made.write path content).toOption.getD made

def files (directory : Directory) : List (Place × Content) :=
  directory.entries.filterMap fun entry =>
    match entry with
    | (place, .file content) => some (place, content)
    | (_, .folder) => none

def readDocument (directory : Directory) (path : String) :
    Except Fault (Except Json.ReadFault Json) :=
  (directory.readText path).map Json.read

end Directory

end TxTemplate
