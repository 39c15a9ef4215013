/-!
# File trees

A folder of named files and folders, as a value. Paths are taken from the root of the tree;
nothing is known outside of it. Names and paths have a greatest length. A path that is too long
leads nowhere; a name that is too long is noticed only when it is looked up in a folder, so that
a fault on the way to that folder comes first.

## Main definitions

* `nameLimit`, `pathLimit`: the greatest lengths.
* `FileTree`, `FileTree.find`: the tree and the entry at a place.
* `Location`, `locate`: the place that a path leads to.
* `FileTree.read`, `FileTree.makeFolders`, `FileTree.write`: what a program does with files.
-/

namespace TrafficChart.Program

inductive FileError where
  | notFound
  | notFolder
  | isFolder
  | nameTooLong
  | other (text : String)
  deriving DecidableEq

def FileError.message : FileError → String
  | .notFound => "No such file or directory (os error 2)"
  | .notFolder => "Not a directory (os error 20)"
  | .isFolder => "Is a directory (os error 21)"
  | .nameTooLong => "File name too long (os error 36)"
  | .other text => text

/-- Why a file was not read: it was not opened, or its content was not available. -/
inductive ReadError where
  | opening (cause : FileError)
  | reading (cause : FileError)
  deriving DecidableEq

/-- The most bytes that the name of an entry has in UTF-8. -/
def nameLimit : Nat := 255

/-- The most bytes that a path has in UTF-8. -/
def pathLimit : Nat := 4095

inductive FileTree where
  | file (content : ByteArray)
  | folder (entries : List (String × FileTree))

namespace FileTree

def empty : FileTree := .folder []

/-- The entry at a place. -/
def find : FileTree → List String → Except FileError FileTree
  | t, [] => .ok t
  | .file _, _ :: _ => .error .notFolder
  | .folder entries, name :: rest =>
    if nameLimit < name.utf8ByteSize then .error .nameTooLong
    else
      match entries.lookup name with
      | none => .error .notFound
      | some t => find t rest

/-- An entry with the given name, in the place of the old one. -/
def setEntry (name : String) (t : FileTree) :
    List (String × FileTree) → List (String × FileTree)
  | [] => [(name, t)]
  | (n, old) :: rest => if n = name then (n, t) :: rest else (n, old) :: setEntry name t rest

/-- Puts an entry at a place; missing folders on the way are made. -/
def put (t : FileTree) : List String → FileTree → Except FileError FileTree
  | [], new => .ok new
  | name :: rest, new =>
    match t with
    | .file _ => .error .notFolder
    | .folder entries =>
      if nameLimit < name.utf8ByteSize then .error .nameTooLong
      else do
        let entry ← ((entries.lookup name).getD empty).put rest new
        return .folder (setEntry name entry entries)

end FileTree

/-- The parts of a path. -/
def pathParts (path : String) : List String :=
  (path.splitToList fun c => c = '/').filter fun part => part ≠ ""

/-- Where a path leads: to a place in the tree, or to a folder outside of it. -/
inductive Location where
  | inside (names : List String)
  | outside

/-- Follows parts of a path from a place. Every place on the way must be a folder. -/
def follow (root : FileTree) : Location → List String → Except FileError Location
  | here, [] => .ok here
  | .outside, part :: rest =>
    if part = "." ∨ part = ".." ∨ part = "" then follow root .outside rest
    else if nameLimit < part.utf8ByteSize then .error .nameTooLong
    else .error .notFound
  | .inside names, part :: rest =>
    match root.find names with
    | .error e => .error e
    | .ok (.file _) => .error .notFolder
    | .ok (.folder _) =>
      if part = "." ∨ part = "" then follow root (.inside names) rest
      else if part = ".." then
        if names.isEmpty then follow root .outside rest
        else follow root (.inside names.dropLast) rest
      else follow root (.inside (names ++ [part])) rest

/-- The place of a path. An empty path leads nowhere, an absolute one out of the tree. -/
def locate (root : FileTree) (path : String) : Except FileError Location :=
  if path = "" then .error .notFound
  else if pathLimit < path.utf8ByteSize then .error .nameTooLong
  else
    let start := if path.startsWith "/" then Location.outside else .inside []
    follow root start (path.splitToList fun c => c = '/')

namespace FileTree

/-- The content of the file at a path. -/
def read (root : FileTree) (path : String) : Except ReadError ByteArray :=
  match locate root path with
  | .error e => .error (.opening e)
  | .ok .outside => .error (.reading .isFolder)
  | .ok (.inside names) =>
    match root.find names with
    | .error e => .error (.opening e)
    | .ok (.folder _) => .error (.reading .isFolder)
    | .ok (.file content) => .ok content

/-- The tree with the folder at a path, unless something is there or in the way. -/
def makeFolders (root : FileTree) (path : String) : FileTree :=
  match root.find (pathParts path) with
  | .ok _ => root
  | .error _ => (root.put (pathParts path) empty).toOption.getD root

/-- The tree with a file at a path, whose folder must exist. -/
def write (root : FileTree) (path : String) (content : ByteArray) :
    Except FileError FileTree := do
  if pathLimit < path.utf8ByteSize then throw .nameTooLong
  let names := pathParts path
  match ← root.find names.dropLast with
  | .file _ => throw .notFolder
  | .folder _ =>
    match root.find names with
    | .ok (.folder _) => throw .isFolder
    | _ => root.put names (.file content)

/-- The files of the folder at a path, by name. -/
def filesIn (root : FileTree) (path : String) : List (String × ByteArray) :=
  match root.find (pathParts path) with
  | .ok (.folder entries) =>
    entries.filterMap fun (name, t) =>
      match t with
      | .file content => some (name, content)
      | .folder _ => none
  | _ => []

end FileTree

end TrafficChart.Program
