import PgVitals.Value
/-!
# Files

A tree of directories and files, and paths into it. A path is followed component by component: each
one but the last has to be a directory, `.` stays and `..` goes up. Names and paths have a greatest
length, in bytes.

* `Tree` are directories and files by their locations, with the working directory.
* `Tree.find` says what a path leads to: a directory, a file, or a place for a file in a directory
  that exists.
* `Tree.openAppend` opens a file to append to it, and makes it where there is none; `Tree.append`
  puts a text behind its content.
* `join` is a name below a directory, and `valueIsDirectory` whether a value of the settings names
  one.

There are no links, no permissions and no limits of space, and nothing else changes files while a
program runs. That an open file cannot be written to is a parameter of the surroundings of a run. A
content is a text or bytes that are none, as only texts are ever appended.
-/

namespace PgVitals.Files

open PgVitals.Text

/-- What a file holds: a text, or bytes that are none. -/
inductive Content where
  | text (s : String)
  | raw (bytes : List UInt8)
deriving DecidableEq, Inhabited

/-- The names on the way from the root. -/
abbrev Location := List String

/-- Directories and files by their locations, and the directory that relative paths start from. -/
structure Tree where
  directories : List Location := [[]]
  files : List (Location × Content) := []
  working : Location := []
deriving Inhabited

/-- What a path leads to. -/
inductive Place where
  | directory (location : Location)
  | file (location : Location)
  /-- Nothing yet, in a directory that exists. -/
  | vacant (location : Location)
deriving DecidableEq

namespace Tree

/-- Whether there is a directory. -/
def hasDirectory (t : Tree) (l : Location) : Bool := l.isEmpty || t.directories.contains l

/-- The content of a file. -/
def content? (t : Tree) (l : Location) : Option Content :=
  (t.files.find? fun entry => entry.1 == l).map Prod.snd

/-- What there is at a location. -/
def placeAt (t : Tree) (l : Location) : Place :=
  if t.hasDirectory l then .directory l
  else if (t.content? l).isSome then .file l
  else .vacant l

/-- The most bytes of a name. -/
def nameLimit : Nat := 255

/-- The most bytes of a path. -/
def pathLimit : Nat := 4095

/-- Follows the components of a path from a place. -/
def follow (t : Tree) : Place → List String → Except Fault Place
  | place, [] => .ok place
  | .directory l, name :: rest =>
    if name == "" || name == "." then t.follow (.directory l) rest
    else if name == ".." then t.follow (.directory l.dropLast) rest
    else if nameLimit < name.utf8ByteSize then .error .nameTooLong
    else t.follow (t.placeAt (l ++ [name])) rest
  | .file _, _ :: _ => .error .notDirectory
  | .vacant _, _ :: _ => .error .missingFile

/-- The components of a path. -/
def components (path : String) : List String :=
  (splitBy (· == '/') path.toList).map String.ofList

/-- Whether a path starts at the root. -/
def isAbsolute (path : String) : Bool := path.toList.head? == some '/'

/-- What a path leads to. -/
def find (t : Tree) (path : String) : Except Fault Place :=
  if path.toList.contains (Char.ofNat 0) then .error .embeddedNull
  else if path.isEmpty then .error .missingFile
  else if pathLimit < path.utf8ByteSize then .error .nameTooLong
  else t.follow (.directory (if isAbsolute path then [] else t.working)) (components path)

/-- Whether a path leads to a directory. -/
def isDirectory (t : Tree) (path : String) : Bool :=
  match t.find path with
  | .ok (.directory _) => true
  | _ => false

/-- Whether a path leads to a file. -/
def isFile (t : Tree) (path : String) : Bool :=
  match t.find path with
  | .ok (.file _) => true
  | _ => false

/-- Puts a content in place of what a file held, or adds the file. -/
def write (t : Tree) (l : Location) (content : Content) : Tree :=
  if (t.content? l).isSome then
    { t with files := t.files.map fun entry => if entry.1 == l then (l, content) else entry }
  else { t with files := t.files ++ [(l, content)] }

/-- Opens a file to append to it: creates it where there is none. -/
def openAppend (t : Tree) (path : String) : Except Fault (Location × Tree) :=
  match t.find path with
  | .error fault => .error fault
  | .ok (.directory _) => .error .isDirectory
  | .ok (.file l) => .ok (l, t)
  | .ok (.vacant l) => .ok (l, t.write l (.text ""))

/-- Whether a content is empty. -/
def isEmptyContent : Content → Bool
  | .text s => s.isEmpty
  | .raw bytes => bytes.isEmpty

/-- A content with a text behind it. -/
def extended (content : Content) (s : String) : Content :=
  match content with
  | .text old => .text (old ++ s)
  | .raw bytes => .raw (bytes ++ s.toUTF8.data.toList)

/-- Appends a text to a file. -/
def append (t : Tree) (l : Location) (s : String) : Tree :=
  match t.content? l with
  | some content => t.write l (extended content s)
  | none => t.write l (.text s)

end Tree

/-- A name below a directory; an absolute name stands alone. -/
def join (directory name : String) : String :=
  if Tree.isAbsolute name then name
  else if directory.isEmpty || directory.toList.getLast? == some '/' then directory ++ name
  else directory ++ "/" ++ name

/-- The path that leads to a location from the root. -/
def pathOf (l : Location) : String := "/" ++ String.intercalate "/" l

/-- The numbers of open files are below this. -/
def descriptorLimit : Int := 2147483648

/-- Whether a value names a directory. Numbers name open files, none of which is a directory. -/
def valueIsDirectory (t : Tree) : Value → Except Fault Bool
  | .text path => .ok (t.isDirectory path)
  | .bytes bs => .ok (((String.fromUTF8? ⟨bs.toArray⟩).map t.isDirectory).getD false)
  | .bool _ => .ok false
  | .int n =>
    if descriptorLimit ≤ n then .error (.descriptorRange false)
    else if n < -descriptorLimit then .error (.descriptorRange true)
    else .ok false
  | _ => .error .wrongKind

end PgVitals.Files
