import FeatLoom.Build
import FeatLoom.CommandLine.Arguments
import FeatLoom.Selector.Printer

/-!
# The command line

Four commands: build, list the modules in load order, read one selector, and write a settings file.
A run is a function of its arguments and its surroundings; it yields an exit code, what is printed,
and the files as it leaves them.
-/

namespace FeatLoom

namespace CommandLine

inductive Command where
  | build (installs : List String) (output : Option String)
  | modules (installs : List String)
  | selector (text : String)
  | initConfig (path : Option String)

structure Request where
  config : Option String := none
  command : Option Command := none

def form (spelling : String) (role : OptionRole) : OptionForm := ⟨spelling.toList, role⟩

def helpForms : List OptionForm := [form "-h" .help, form "--help" .help]

def installForms : List OptionForm := [form "-g" .installPath, form "--game-path" .installPath]

def mainGrammar : Grammar where
  options := helpForms ++ [form "--version" .version, form "-v" .verbose,
    form "--verbose" .verbose, form "-c" .config, form "--config" .config]
  operand := .command

def buildGrammar : Grammar where
  options := helpForms ++ installForms ++ [form "-o" .output, form "--output" .output]
  operand := .nothing

def modulesGrammar : Grammar := ⟨helpForms ++ installForms, .nothing⟩

def selectorGrammar : Grammar := ⟨helpForms, .required⟩

def initConfigGrammar : Grammar := ⟨helpForms, .optional⟩

namespace Arguments

def all (arguments : Arguments) (role : OptionRole) : List String :=
  (arguments.options.filter fun option => option.1 == role).map Prod.snd

def last? (arguments : Arguments) (role : OptionRole) : Option String :=
  (arguments.all role).getLast?

def word? (arguments : Arguments) : Option String := arguments.operand.bind List.head?

end Arguments

def commandOf? : String → Option (Grammar × (Arguments → Command))
  | "build" => some (buildGrammar, fun found =>
      .build (found.all .installPath) (found.last? .output))
  | "modules" => some (modulesGrammar, fun found => .modules (found.all .installPath))
  | "selector" => some (selectorGrammar, fun found => .selector (found.word?.getD ""))
  | "init-config" => some (initConfigGrammar, fun found => .initConfig found.word?)
  | _ => none

/-- Reads a request. Words without a place are found last, so help and version come before them. -/
def readRequest (words : List String) : Except Ending Request := do
  let main ← readArguments mainGrammar words
  let config := main.last? .config
  match main.operand with
  | some (name :: rest) =>
    match commandOf? name with
    | none => throw .misuse
    | some (grammar, make) =>
      let found ← readArguments grammar rest
      if main.hasExtra || found.hasExtra then throw .misuse
      return { config, command := some (make found) }
  | _ =>
    if main.hasExtra then throw .misuse
    return { config }

/-! ## Running -/

/-- What a run prints where the usage belongs; the outer layer fills it in. -/
inductive Printed where
  | text (content : String)
  | usage
  deriving DecidableEq

structure Outcome where
  exitCode : Nat
  output : Printed
  /-- What is printed about failures; nothing where the arguments ended the run. -/
  errors : Option String
  tree : FileTree

def versionText : String := "featweaver 0.1.0\n"

def ended (tree : FileTree) : Ending → Outcome
  | .help => ⟨0, .usage, none, tree⟩
  | .version => ⟨0, .text versionText, none, tree⟩
  | .misuse => ⟨2, .text "", none, tree⟩

def printed (exitCode : Nat) (text : String) (tree : FileTree) : Outcome :=
  ⟨exitCode, .text text, some "", tree⟩

def complaint (text : String) (tree : FileTree) : Outcome :=
  ⟨1, .text "", some (text ++ "\n"), tree⟩

/-- The message of an error that a run reports itself. Other errors end the run. -/
def reported? : BuildError → Option String
  | .order fault@(.unresolved _ _) => some fault.message
  | .weave (.noListKind _) | .weave .tooDeep => none
  | .weave fault => some fault.message
  | _ => none

def given (word : Option String) : Option String := word.filter (· ≠ "")

def settingsOf (sources : Settings.Sources) (tree : FileTree) (config : Option String)
    (installs : List String) : Except BuildError Settings := do
  let file := (given config).map FilePath.ofText
  let settings ← Build.step .settings (Settings.load sources tree file)
  return if installs.isEmpty then settings
    else settings.withInstalls (installs.map FilePath.ofText)

def lines (texts : List String) : String := String.join (texts.map (· ++ "\n"))

def summaryText (summary : BuildSummary) : String :=
  let order := ", ".intercalate summary.loadOrder
  lines [
    "Load order: " ++ (if order = "" then "(none)" else order),
    "Feats: " ++ toString summary.feats,
    "Spells: " ++ toString summary.spells,
    "Boosts: " ++ toString summary.boosts,
    "Wrote " ++ toString summary.exported.written.length ++ " files"]

def moduleLine (m : Module) : String :=
  let dependencies := ", ".intercalate m.dependencyNames
  m.shownName ++ " v" ++ toString m.version ++ " (" ++ toString m.feats.length ++ " feats) <- " ++
    (if dependencies = "" then "-" else dependencies)

def runBuild [Nesting] (settings : Settings) (output : Option String) (tree : FileTree) :
    Except BuildError Outcome :=
  match build settings ((given output).map FilePath.ofText) tree with
  | (.ok summary, changed) => .ok (printed 0 (summaryText summary) changed)
  | (.error fault, changed) =>
    match reported? fault with
    | some message => .ok (complaint ("Build failed: " ++ message) changed)
    | none => .error fault

def runModules [Nesting] (settings : Settings) (tree : FileTree) : Except BuildError Outcome :=
  match Build.modules settings tree with
  | .ok modules => .ok (printed 0 (lines (modules.map moduleLine)) tree)
  | .error fault =>
    match reported? fault with
    | some message => .ok (complaint ("Error: " ++ message) tree)
    | none => .error fault

def runSelector (text : String) (tree : FileTree) : Outcome :=
  let selector := Selector.read text
  printed (if selector.kind = .unknown then 1 else 0) (selector.describe ++ "\n") tree

def usualSettingsFile (home : FilePath) : FilePath :=
  home ++ FilePath.ofText ".featweaver/config.yaml"

def runInitConfig (home : FilePath) (path : Option String) (tree : FileTree) :
    Except BuildError Outcome :=
  let file := ((given path).map FilePath.ofText).getD (usualSettingsFile home)
  match (Settings.writeTemplate file).run.run tree with
  | (.ok (), changed) => .ok (printed 0 ("Wrote config: " ++ file.toText ++ "\n") changed)
  | (.error fault, _) => .error (.file fault)

def runRequest [Nesting] (sources : Settings.Sources) (tree : FileTree) (request : Request) :
    Except BuildError Outcome :=
  match request.command with
  | none => .ok ⟨0, .usage, some "", tree⟩
  | some (.build installs output) => do
    runBuild (← settingsOf sources tree request.config installs) output tree
  | some (.modules installs) => do
    runModules (← settingsOf sources tree request.config installs) tree
  | some (.selector text) => .ok (runSelector text tree)
  | some (.initConfig path) => runInitConfig sources.home path tree

end CommandLine

/-- Runs a command line. An error stands for a failure that the run does not report itself. -/
def runCommandLine [Nesting] (sources : Settings.Sources) (tree : FileTree) (words : List String) :
    Except BuildError CommandLine.Outcome :=
  match CommandLine.readRequest words with
  | .error ending => .ok (CommandLine.ended tree ending)
  | .ok request => CommandLine.runRequest sources tree request

end FeatLoom
