import FeatLoom.CommandLine

/-!
# The program

Reads the files that a run can use into a file tree, runs the command line on it, and carries the
changes of the tree over to the disk.
-/

namespace FeatLoom.Program

partial def readInto (tree : FileTree) (path : FilePath) : IO FileTree := do
  match tree.locate? path with
  | none => return tree
  | some place =>
    match ← (IO.FS.realPath path.toText).toBaseIO with
    | .error _ => return tree
    | .ok found =>
      if ← found.isDir then
        let inside ← found.readDir
        let names := inside.toList.map fun entry => path ++ ⟨"", [entry.fileName]⟩
        names.foldlM readInto (tree.addDirectory place)
      else if ← found.pathExists then
        return tree.addFile place (← IO.FS.readBinFile found)
      else return tree

def readEnvironment : IO Environment := do
  let names := [Settings.pathsVariable, Settings.outputVariable, Settings.leavesVariable]
  names.foldlM (fun found name => do
    match ← IO.getEnv name with
    | some value => return found.insert name value
    | none => return found) OrderedMap.empty

def readSources : IO Settings.Sources := do
  let home := FilePath.ofText ((← IO.getEnv "HOME").getD "/")
  return { home, search := [CommandLine.usualSettingsFile home], environment := ← readEnvironment }

def pathsOf (sources : Settings.Sources) (tree : FileTree) : CommandLine.Request → List FilePath
  | ⟨config, some (.build installs output)⟩ =>
    match CommandLine.settingsOf sources tree config installs with
    | .ok settings =>
      settings.installs.toOption.getD [] ++
        ((CommandLine.given output).map FilePath.ofText).toList ++ settings.output.toOption.toList
    | .error _ => []
  | ⟨config, some (.modules installs)⟩ =>
    match CommandLine.settingsOf sources tree config installs with
    | .ok settings => settings.installs.toOption.getD []
    | .error _ => []
  | ⟨_, some (.initConfig path)⟩ =>
    let given := (CommandLine.given path).map FilePath.ofText
    [given.getD (CommandLine.usualSettingsFile sources.home)]
  | _ => []

def readTree (sources : Settings.Sources) (request : CommandLine.Request) : IO FileTree := do
  let named := (CommandLine.given request.config).map FilePath.ofText
  let settled ← ((named.map fun path => [path]).getD sources.search).foldlM readInto {}
  (pathsOf sources settled request).foldlM readInto settled

def pathText : Location → String
  | [] => "."
  | "/" :: rest => "/" ++ "/".intercalate rest
  | place => "/".intercalate place

def isUnchanged (before : FileTree) (place : Location) (bytes : ByteArray) : Bool :=
  match before.files.get? place with
  | some old => old == bytes
  | none => false

def writeChanges (before after : FileTree) : IO Unit := do
  before.files.keys.forM fun place => do
    if !after.isFile place then IO.FS.removeFile (pathText place)
  after.directories.forM fun place => do
    if !before.isDirectory place then IO.FS.createDirAll (pathText place)
  after.files.entries.forM fun (place, bytes) => do
    if !isUnchanged before place bytes then IO.FS.writeBinFile (pathText place) bytes

def usage : String := "\n".intercalate [
  "usage: featweaver [-h] [--version] [-v] [-c CONFIG] COMMAND ...",
  "",
  "commands:",
  "  build [-g PATH]... [-o DIRECTORY]   generate spells, boosts and wiring",
  "  modules [-g PATH]...                show modules in load order",
  "  selector TEXT                       read a selector",
  "  init-config [PATH]                  write a settings file",
  ""]

def describeYamlError : Yaml.Error → String
  | .malformed => "malformed"
  | .noCharacter => "an escape names no character"
  | .hugeCharacter => "an escape names too great a number"
  | .noNumber => "not a number"
  | .emptyNumber => "an empty number"
  | .noBool => "neither yes nor no"
  | .noDate => "not a date"
  | .notInCalendar => "a date that is not in the calendar"

def describeSettingsError : SettingsError → String
  | .undecodable path => path ++ ": not a text in UTF-8"
  | .noValue path fault => path ++ ": " ++ describeYamlError fault
  | .wrongType setting => setting ++ " has a value of the wrong type"
  | .notInteger setting => setting ++ " is not an integer"
  | .notFinite setting => setting ++ " is not finite"
  | .patternNotText => "package_patterns holds something that is not a text"

def describeFileError : FileError → String
  | .notFound path => path ++ ": no such file or directory"
  | .isDirectory path => path ++ ": is a directory"
  | .notDirectory path => path ++ ": not a directory"
  | .exists path => path ++ ": file exists"
  | .unusablePattern pattern => pattern ++ ": unusable pattern"
  | .absolutePattern pattern => pattern ++ ": absolute pattern"

def describeArchiveError : ArchiveError → String
  | .damaged => "a package is damaged"
  | .truncated => "an entry of a package ends too early"
  | .unsupported => "an entry of a package needs something unknown"
  | .encrypted => "an entry of a package is encrypted"
  | .undecodable => "an entry of a package has a name that is not in UTF-8"
  | .unnamed => "an entry of a package has no name"

def describeBuildError : BuildError → String
  | .settings fault => describeSettingsError fault
  | .file fault => describeFileError fault
  | .order fault => fault.message
  | .weave fault => fault.message
  | .package (.archive fault) => describeArchiveError fault
  | .package (.file fault) => fault.message

def finish (before : FileTree) (outcome : CommandLine.Outcome) : IO UInt32 := do
  match outcome.output with
  | .text content => IO.print content
  | .usage => IO.print usage
  match outcome.errors with
  | some text => IO.eprint text
  | none => if outcome.exitCode ≠ 0 then IO.eprint usage
  writeChanges before outcome.tree
  return outcome.exitCode.toUInt32

def run (words : List String) : IO UInt32 := do
  let sources ← readSources
  let request := (CommandLine.readRequest words).toOption.getD {}
  let tree ← readTree sources request
  match runCommandLine sources tree words with
  | .ok outcome => finish tree outcome
  | .error fault => do
    IO.eprintln (describeBuildError fault)
    return 1

end FeatLoom.Program

def main (words : List String) : IO UInt32 := FeatLoom.Program.run words
