import PgVitals.Files.Tree
import PgVitals.Session.Run
import PgVitals.Settings
import PgVitals.Yaml
/-!
# Loading settings

The settings are in a file that the command line names, or else in a file of a fixed name in the
working directory or in the user's home. Without a file every setting has its default.

* `load` is all of it: the file that is named, or the one that `find?` finds.
* `ofFile` and `ofText` read a file, and the text in it. A file that cannot be read, and a text that
  is no document, are errors of configuration.
* `withLineFeeds` is what reading does to the ends of lines.

What is left out is the wording of a flaw in a document: the reader of documents has words of its
own for where and why, and here a flaw is only told from a document without one. The home of a user
who is named by a tilde is not looked up.
-/

namespace PgVitals.Settings

open PgVitals.Files PgVitals.Text

/-- The name of the settings file. -/
def fileName : String := "pgstats.yaml"

/-- The components of a path that lead somewhere else. -/
def pathParts (path : String) : List String :=
  (Tree.components path).filter fun part => !part.isEmpty && part != "."

/-- A name below a directory, without parts that lead nowhere else. -/
def below (directory name : String) : String :=
  let start := if Tree.isAbsolute directory then "/" else ""
  start ++ String.intercalate "/" (pathParts directory ++ [name])

/-- The home of the user; the root where it is empty. One that starts with a tilde is not known. -/
def homeOf (environment : String → Option String) : Except Fault String :=
  match environment "HOME" with
  | none => .ok "/root"
  | some path =>
    if path.toList.head? = some '~' then .error .homeUnknown
    else .ok (if path.isEmpty then "/" else path)

/-- The settings file that is found without being named: the home matters only where there is none
in the working directory. -/
def find? (files : Tree) (environment : String → Option String) : Except Fault (Option String) := do
  let near := below (pathOf files.working) fileName
  if files.isFile near then return some near
  let far := below (← homeOf environment) fileName
  match files.find far with
  | .ok (.file _) => return some far
  | .error .nameTooLong => throw .nameTooLong
  | _ => return none

/-- A text with every line ended by a line feed. -/
def withLineFeeds (s : String) : String := String.ofList (unify s.toList)
where
  unify : List Char → List Char
    | '\r' :: '\n' :: rest => '\n' :: unify rest
    | '\r' :: rest => '\n' :: unify rest
    | c :: rest => c :: unify rest
    | [] => []

/-- The text of a file. -/
def textAt (files : Tree) (path : String) : Except Failure String :=
  match files.find path with
  | .ok (.file location) =>
    match files.content? location with
    | some (.text s) => .ok (withLineFeeds s)
    | some (.raw _) => .error (.fault .undecodable)
    | none => .error (.config (.fileNotFound path))
  | _ => .error (.config (.fileNotFound path))

/-- The settings in a text. -/
def ofText (path text : String) : Except Failure Settings :=
  match Yaml.read text with
  | .error .malformed => .error (.config (.fileMalformed path))
  | .error (.value fault) => .error (.fault fault)
  | .ok value =>
    match value.filter Value.truthy with
    | none => ofEntries []
    | some (.map entries) => ofEntries entries
    | some _ => .error (.config (.fileNotMapping path))

/-- The settings in the file of a path. -/
def ofFile (files : Tree) (path : String) : Except Failure Settings := do
  ofText path (← textAt files path)

/-- The settings in the file that is named, or else in the one that is found, where there is one.
Null names no file, and a value that is no text is no path of a file. -/
def load (files : Tree) (environment : String → Option String) (named : Value) (search : Bool) :
    Except Failure Settings := do
  match named with
  | .null =>
    match ← orFault (if search then find? files environment else .ok none) with
    | some path => ofFile files path
    | none => return {}
  | .text path => ofFile files path
  | v =>
    let _ ← orFault (valueIsDirectory files v)
    throw (.config (.fileNotFound v.shown))

end PgVitals.Settings
