import PgVitals.Command.Program
/-!
# The programs on a machine

The outer layer: the arguments, the environment and the files that matter are gathered, the program
runs on them, and what it says is written. The name under which the program is started selects the
utility. No driver for the server is part of this build, so connections are refused.

* `readEnvironment` and `filesFor` gather what a program looks at.
* `run` runs the program of a name and writes what it has printed and what it complains about, and
  `statusOf` is its exit status.

Nothing is proved about this layer, and nothing else uses it. Text is written when the program has
ended, and not while it runs.
-/

namespace PgVitals.Machine

open PgVitals.Files

/-- The environment variables that a program looks at. -/
def variableNames : List String := ["COLUMNS", "LINES", "HOME", "PGDATABASE", "PGPASSWORD"]

/-- The variables that are set. -/
def readEnvironment : IO (List (String × String)) :=
  variableNames.filterMapM fun name => do
    return (← IO.getEnv name).map fun text => (name, text)

/-- The location that a path leads to from a directory. -/
def locate (working : Location) (path : String) : Location :=
  let step (l : Location) (name : String) : Location :=
    if name == "" || name == "." then l else if name == ".." then l.dropLast else l ++ [name]
  (Tree.components path).foldl step (if Tree.isAbsolute path then [] else working)

/-- The content of bytes. -/
def contentOf (bytes : ByteArray) : Content :=
  match String.fromUTF8? bytes with
  | some s => .text s
  | none => .raw bytes.toList

/-- The tree with the directories on the way to a location. -/
def withDirectories (tree : Tree) (l : Location) : Tree :=
  { tree with directories := (List.range (l.length + 1)).map l.take ++ tree.directories }

/-- The tree with what there is at a path. -/
def look (tree : Tree) (path : String) : IO Tree := do
  let place := (← IO.currentDir) / path
  let l := locate tree.working path
  if ← place.isDir then return withDirectories tree l
  else if ← place.pathExists then
    let content := contentOf (← IO.FS.readBinFile place)
    let tree := withDirectories tree l.dropLast
    return { tree with files := (l, content) :: tree.files }
  else return tree

/-- The files that an invocation looks at: those that may hold its settings, and the directory of a
snapshot. -/
def filesFor (environment : String → Option String) (i : Invocation) : IO Tree := do
  let working := locate [] (← IO.currentDir).toString
  let tree := withDirectories { working := working } working
  let tree ← look tree (Settings.below (pathOf working) Settings.fileName)
  let tree ← match Settings.homeOf environment with
    | .ok home => look tree (Settings.below home Settings.fileName)
    | .error _ => pure tree
  let tree ← match i.general.settingsFile with
    | .text path => look tree path
    | _ => pure tree
  match Settings.load tree environment i.general.settingsFile true, i.task with
  | .ok settings, .snapshot options =>
    match Settings.pick options.directory settings.snapshot.directory with
    | .text path => look tree path
    | _ => return tree
  | _, _ => return tree

/-- Why no connection can be made. -/
def noDriver : String := "no database driver is available"

/-- The exit status of a program. -/
def statusOf : Except Stop Unit → UInt32
  | .ok _ => 0
  | .error (.failed (.exit status)) => (status % 256).toNat.toUInt32
  | .error _ => 1

/-- Runs the program of a name. -/
def run (name : String) (texts : List String) : IO UInt32 := do
  let known ← readEnvironment
  let environment (name : String) : Option String := known.lookup name
  let files ← match readProgram (Terminal.columns environment) name texts with
    | .ok (some invocation) => filesFor environment invocation
    | _ => pure {}
  let surroundings : Surroundings :=
    { reply := fun _ _ => {}
      environment := environment
      refusal := some noDriver
      terminal := ← (← IO.getStdout).isTty }
  let (result, session) :=
    (runProgram name texts).perform surroundings { files := files, handlers := .none }
  IO.print session.output
  IO.eprint session.errorOutput
  match result with
  | .error (.failed (.exit _)) => pure ()
  | .error (.failed failure) => IO.eprintln failure.message
  | _ => pure ()
  return statusOf result

end PgVitals.Machine

/-- Runs the program under whose name it was started. -/
def main (texts : List String) : IO UInt32 := do
  let name := (← IO.appPath).fileName.getD PgVitals.suiteProgram
  PgVitals.Machine.run name texts
