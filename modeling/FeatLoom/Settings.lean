import FeatLoom.FileTree
import FeatLoom.Text.Integer
import FeatLoom.Text.Split
import FeatLoom.Yaml.Reader

/-!
# Settings

Settings come from built-in values, over which the first usable settings file is laid, and over that
the environment. A settings file can put any value anywhere, so settings keep the values as they
were read, and each setting is checked only when it is used.
-/

namespace FeatLoom

inductive SettingsError where
  | undecodable (path : String)
  | noValue (path : String) (fault : Yaml.Error)
  | wrongType (setting : String)
  | notInteger (setting : String)
  | notFinite (setting : String)
  | patternNotText
  deriving DecidableEq

structure Settings where
  installPaths : Yaml.Value
  outputPath : Yaml.Value
  packagePatterns : Yaml.Value
  anchorModules : Yaml.Value
  baseSpell : Yaml.Value
  fileMark : Yaml.Value
  maxLeaves : Yaml.Value
  file : Option FilePath := none

abbrev Environment := OrderedMap String String

namespace Settings

open Yaml (Value)

instance : Inhabited Settings := ⟨⟨.null, .null, .null, .null, .null, .null, .null, none⟩⟩

def texts (values : List String) : Value := .list (values.map .text)

def builtIn (home : FilePath) : Settings where
  installPaths := texts [
    "C:\\Program Files (x86)\\Steam\\steamapps\\common\\Baldurs Gate 3\\Data",
    (home ++ FilePath.ofText "AppData/Local/Larian Studios/Baldur's Gate 3/Mods").toText]
  outputPath := .text "./generated"
  packagePatterns := texts ["*.zip"]
  anchorModules := texts ["Shared", "SharedDev"]
  baseSpell := .text "E6_Shout_EpicFeats"
  fileMark := .text "E6_Gen_"
  maxLeaves := .int 100000

def withEntries (settings : Settings) (entries : List (Value × Value)) : Settings :=
  let entry (name : String) (present : Value) : Value := (Value.entry? name entries).getD present
  { settings with
    installPaths := entry "game_install_paths" settings.installPaths
    outputPath := entry "output_path" settings.outputPath
    packagePatterns := entry "package_patterns" settings.packagePatterns
    anchorModules := entry "anchor_modules" settings.anchorModules
    baseSpell := entry "base_spell_container" settings.baseSpell
    fileMark := entry "file_prefix" settings.fileMark
    maxLeaves := entry "max_generated_leaves" settings.maxLeaves }

/-! ## Sources -/

/-- The entries of a value that holds settings. One that says nothing holds no entries. -/
def entriesOf? : Value → Option (List (Value × Value))
  | .map entries => some entries
  | value => if value.isBlank then some [] else none

/-- The entries of the settings in a text. A text that breaks the rules of its format holds none. -/
def readText (path : FilePath) (text : String) :
    Except SettingsError (Option (List (Value × Value))) :=
  match Yaml.read text with
  | .ok value => .ok (entriesOf? value)
  | .error .malformed => .ok none
  | .error fault => .error (.noValue path.toText fault)

def readFile (tree : FileTree) (path : FilePath) :
    Except SettingsError (Option (List (Value × Value))) :=
  match (tree.locate? path).bind tree.files.get? with
  | some bytes =>
    match String.fromUTF8? bytes with
    | some text => readText path text
    | none => .error (.undecodable path.toText)
  | none => .ok none

def overFirst (tree : FileTree) (settings : Settings) :
    List FilePath → Except SettingsError Settings
  | [] => .ok settings
  | path :: rest => do
    match ← readFile tree path with
    | some entries => return { settings.withEntries entries with file := some path }
    | none => overFirst tree settings rest

def pathsVariable : String := "FEATWEAVER_GAME_PATHS"

def outputVariable : String := "FEATWEAVER_OUTPUT_PATH"

def leavesVariable : String := "FEATWEAVER_MAX_LEAVES"

def pathList (text : String) : List String :=
  ((Text.splitOn [':'] text.toList).filter (· ≠ [])).map String.ofList

/-- Lays the environment over settings. A limit that is no integer is ignored. -/
def overEnvironment (settings : Settings) (environment : Environment) : Settings :=
  let limit := (environment.get? leavesVariable).bind Text.toInt?
  { settings with
    installPaths := ((environment.get? pathsVariable).map fun text =>
      texts (pathList text)).getD settings.installPaths
    outputPath := ((environment.get? outputVariable).map .text).getD settings.outputPath
    maxLeaves := (limit.map .int).getD settings.maxLeaves }

structure Sources where
  home : FilePath
  search : List FilePath := []
  environment : Environment := OrderedMap.empty

/-- Loads settings, from a named file or else from the places searched. -/
def load (sources : Sources) (tree : FileTree) (path : Option FilePath) :
    Except SettingsError Settings := do
  let places := (path.map fun named => [named]).getD sources.search
  let settings ← overFirst tree (builtIn sources.home) places
  return settings.overEnvironment sources.environment

/-! ## Use -/

/-- The items of a setting that lists something. A text lists its characters, and a mapping its
keys; bytes are listed as numbers. -/
def items (setting : String) (value : Value) : Except SettingsError (List Value) :=
  if value.isBlank then .ok []
  else
    match value with
    | .text text => .ok (text.toList.map fun c => .text (String.singleton c))
    | .binary bytes => .ok (bytes.map fun byte => .int byte.toNat)
    | .list items => .ok items
    | .set items => .ok items
    | .map entries => .ok (entries.map Prod.fst)
    | _ => .error (.wrongType setting)

def pathOf (setting : String) : Value → Except SettingsError FilePath
  | .text text => .ok (FilePath.ofText text)
  | _ => .error (.wrongType setting)

def installs (settings : Settings) : Except SettingsError (List FilePath) := do
  (← items "game_install_paths" settings.installPaths).mapM (pathOf "game_install_paths")

def output (settings : Settings) : Except SettingsError FilePath :=
  pathOf "output_path" settings.outputPath

def patterns (settings : Settings) : Except SettingsError (List Value) :=
  items "package_patterns" settings.packagePatterns

def anchors (settings : Settings) : Except SettingsError (List Value) :=
  items "anchor_modules" settings.anchorModules

/-- The limit of leaves and dead ends. A decimal number is cut to its integer part. -/
def limit (settings : Settings) : Except SettingsError Int :=
  let setting := "max_generated_leaves"
  let written (text : String) : Except SettingsError Int :=
    match Text.toInt? text with
    | some n => .ok n
    | none => .error (.notInteger setting)
  match settings.maxLeaves with
  | .int n => .ok n
  | .bool b => .ok (if b then 1 else 0)
  | .decimal (.finite negative mantissa power) =>
    .ok (Binary64.truncated negative mantissa power)
  | .decimal (.infinite _) => .error (.notFinite setting)
  | .decimal .notANumber => .error (.notInteger setting)
  | .text text => written text
  | .binary bytes =>
    if bytes.all (· < 0x80) then
      written (String.ofList (bytes.map fun byte => Char.ofNat byte.toNat))
    else .error (.notInteger setting)
  | _ => .error (.wrongType setting)

structure Checked where
  installs : List FilePath
  output : FilePath
  patterns : List Value
  anchors : List Value
  baseSpell : Value
  fileMark : Value
  limit : Int
  file : Option FilePath

/-- Checks all settings; the first unusable one counts. -/
def check (settings : Settings) : Except SettingsError Checked := do
  let installs ← settings.installs
  let output ← settings.output
  let patterns ← settings.patterns
  let anchors ← settings.anchors
  let limit ← settings.limit
  return { installs, output, patterns, anchors, baseSpell := settings.baseSpell
           fileMark := settings.fileMark, limit, file := settings.file }

def withInstalls (settings : Settings) (paths : List FilePath) : Settings :=
  { settings with installPaths := texts (paths.map FilePath.toText) }

def withOutput (settings : Settings) (path : FilePath) : Settings :=
  { settings with outputPath := .text path.toText }

def template : String := "\n".intercalate [
  "# FeatWeaver Configuration",
  "#",
  "# Paths and limits for generating feat spells.",
  "# You can override any setting here or via environment variables",
  "# (FEATWEAVER_GAME_PATHS, FEATWEAVER_OUTPUT_PATH, FEATWEAVER_MAX_LEAVES).",
  "",
  "# Directories searched for packages (unpacked package folders and archives)",
  "game_install_paths:",
  "  - \"C:\\\\Program Files (x86)\\\\Steam\\\\steamapps\\\\common\\\\Baldurs Gate 3\\\\Data\"",
  "",
  "# Where generated stat files and the wiring json are written",
  "output_path: \"./generated\"",
  "",
  "# Archive patterns to read besides unpacked package folders",
  "package_patterns:",
  "  - \"*.zip\"",
  "",
  "# Modules that always load first",
  "anchor_modules:",
  "  - \"Shared\"",
  "  - \"SharedDev\"",
  "",
  "# Generated names",
  "base_spell_container: \"E6_Shout_EpicFeats\"",
  "file_prefix: \"E6_Gen_\"",
  "",
  "# Stop if selector combinations produce more leaves than this",
  "max_generated_leaves: 100000",
  ""]

def writeTemplate (path : FilePath) : FileAction FileError Unit := do
  let _ ← FileAction.makeDirectories path.parent
  FileAction.writeText path template

end Settings

/-- The settings loaded so far, the ones in use, and the ones kept for those who ask for no file in
particular. -/
structure SettingsSession where
  loaded : Array Settings := #[]
  current : Option Nat := none
  kept : Option Nat := none

namespace SettingsSession

def adopt (session : SettingsSession) (settings : Settings) : SettingsSession :=
  { session with loaded := session.loaded.push settings, current := some session.loaded.size }

def load (session : SettingsSession) (sources : Settings.Sources) (tree : FileTree)
    (path : Option FilePath) : Except SettingsError SettingsSession :=
  (Settings.load sources tree path).map session.adopt

/-- Puts the kept settings to use; without any, or if a file is named, loads settings and keeps
them. -/
def get (session : SettingsSession) (sources : Settings.Sources) (tree : FileTree)
    (path : Option FilePath) : Except SettingsError SettingsSession :=
  match session.kept, path with
  | some n, none => .ok { session with current := some n }
  | _, _ =>
    (session.load sources tree path).map fun loaded => { loaded with kept := loaded.current }

def change (session : SettingsSession) (f : Settings → Settings) : SettingsSession :=
  match session.current with
  | some n => { session with loaded := session.loaded.modify n f }
  | none => session

def settings? (session : SettingsSession) : Option Settings :=
  session.current.bind fun n => session.loaded[n]?

end SettingsSession

end FeatLoom
