import UtteranceTemplate.CommandLine.Run

/-!
The program: it looks at the files that its arguments, the environment and the
settings name, runs the command on what it saw, and prints the report.
-/

namespace UtteranceTemplate

namespace Main

def vocabularyVariable : String := "VOICE_TEMPLATES_VOCAB"

/-- The string of a text, with the replacement character for halves of pairs. -/
def stringOf (text : Text) : String :=
  String.ofList (text.map fun
    | .char c => c
    | .half _ => '\ufffd')

/-- The file under a name, if it can be seen. -/
def fileAt (name : Text) : IO (Option FileEntry) := do
  try
    return some
      (.file (← IO.FS.readBinFile ((← IO.currentDir) / stringOf name)).toList)
  catch
    | .permissionDenied .. => return some .sealedFile
    | _ => return none

/-- What there is under a name, if it can be seen. A directory is open if its own
entry can be seen in it. -/
def entryAt (name : Text) : IO (Option FileEntry) := do
  let path := (← IO.currentDir) / stringOf name
  try
    if ← path.isDir then
      return some (if ← (path / ".").pathExists then .directory
        else .sealedDirectory)
    else fileAt name
  catch _ => return none

def observeEntry (project : Text) (tree : FileTree) (path : FilePath) :
    IO FileTree := do
  match tree.locate path with
  | .error _ => return tree
  | .ok location =>
      match ← entryAt (path.inProject.text project) with
      | some entry => return tree.putAt location entry
      | none => return tree

/-- Takes what there is on the way to the end of a path into a tree. -/
def observe (project : Text) (tree : FileTree) (path : FilePath) : IO FileTree :=
  (FileTree.parentsOf path ++ [path]).foldlM (observeEntry project) tree

/-- The paths that arguments and the environment may mean: every argument may be one,
and so may what follows an equals sign in it. -/
def candidates (arguments : List Text) (vocabularyPath : Option Text) :
    List FilePath :=
  let attached :=
    arguments.map fun argument => (argument.dropWhile (· != .char '=')).tail
  (arguments ++ attached ++ vocabularyPath.toList).map FilePath.ofText

/-- What commands can see. -/
def surroundings (arguments : List Text) : IO Surroundings := do
  let project := (← IO.currentDir).toString.text
  let vocabularyPath := (← IO.getEnv vocabularyVariable).map String.text
  let tree ← observe project FileTree.empty Settings.path
  let settled :=
    match Settings.load tree with
    | .ok settings => settings.vocabularyPath.toList.map FilePath.ofText
    | .error _ => []
  let tree ← (candidates arguments vocabularyPath ++ settled).foldlM
    (observe project) tree
  return { project, tree, vocabularyPath }

end Main

end UtteranceTemplate

open UtteranceTemplate in
def main (arguments : List String) : IO UInt32 := do
  let texts := arguments.map String.text
  let report := Command.runProgram (← Main.surroundings texts) texts
  (← IO.getStdout).putStr (Main.stringOf report.output)
  (← IO.getStderr).putStr (Main.stringOf report.errorOutput)
  match report.breakdown with
  | some breakdown => (← IO.getStderr).putStrLn (Main.stringOf breakdown.message)
  | none => pure ()
  return report.status.toUInt32
