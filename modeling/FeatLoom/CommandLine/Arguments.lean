import FeatLoom.Text.Digit

/-!
# Command-line arguments

A grammar lists options and says what operand it takes. Words that look like options are options
wherever they stand, up to a double dash; a long option may be cut short as long as it stays
unambiguous, a short option may be followed directly by its value or by further short options, and a
negative number or a word with a space is no option. The first operand that is a command takes all
words after it, whatever they look like.
-/

namespace FeatLoom.CommandLine

inductive OptionRole where
  | help
  | version
  | verbose
  | config
  | installPath
  | output
  deriving DecidableEq

namespace OptionRole

def takesValue : OptionRole → Bool
  | config => true
  | installPath => true
  | output => true
  | _ => false

end OptionRole

structure OptionForm where
  spelling : List Char
  role : OptionRole

inductive Operand where
  | nothing
  | command
  | required
  | optional
  deriving DecidableEq

structure Grammar where
  options : List OptionForm
  operand : Operand

inductive Ending where
  | help
  | version
  | misuse
  deriving DecidableEq

inductive Word where
  | plain (text : String)
  | divider
  | option (form : OptionForm) (attached : Option (List Char))
  | foreign
  deriving Inhabited

namespace Word

def isOption : Word → Bool
  | option _ _ => true
  | foreign => true
  | _ => false

end Word

/-! ## Classifying words -/

def cutAtEquals (word : List Char) : List Char × Option (List Char) :=
  match word.dropWhile (· ≠ '=') with
  | [] => (word, none)
  | _ :: value => (word.takeWhile (· ≠ '='), some value)

def longReadings (grammar : Grammar) (word : List Char) :
    List (OptionForm × Option (List Char)) :=
  let (name, value) := cutAtEquals word
  (grammar.options.filter fun form => name.isPrefixOf form.spelling).map fun form => (form, value)

def shortReadings (grammar : Grammar) (word : List Char) :
    List (OptionForm × Option (List Char)) :=
  grammar.options.filterMap fun form =>
    if form.spelling = word.take 2 then some (form, some (word.drop 2))
    else if word.isPrefixOf form.spelling then some (form, none)
    else none

def readings (grammar : Grammar) (word : List Char) : List (OptionForm × Option (List Char)) :=
  match word with
  | '-' :: '-' :: _ => longReadings grammar word
  | _ => shortReadings grammar word

/-- Whether digits may follow a minus sign, perhaps with a point before the last of them. A line
feed at the end does not count. -/
def isNegativeNumber : List Char → Bool
  | '-' :: number =>
    let digits := if number.getLast? == some '\n' then number.dropLast else number
    let whole := digits.takeWhile Text.isDigit
    match digits.dropWhile Text.isDigit with
    | [] => !whole.isEmpty
    | '.' :: fraction => !fraction.isEmpty && fraction.all Text.isDigit
    | _ => false
  | _ => false

def exactForm? (grammar : Grammar) (spelling : List Char) : Option OptionForm :=
  grammar.options.find? fun form => form.spelling == spelling

def classify (grammar : Grammar) (text : String) : Except Ending Word :=
  let word := text.toList
  match word with
  | '-' :: _ :: _ =>
    match exactForm? grammar word with
    | some form => .ok (.option form none)
    | none =>
      let (name, value) := cutAtEquals word
      match value.bind fun v => (exactForm? grammar name).map fun form => (form, v) with
      | some (form, v) => .ok (.option form (some v))
      | none =>
        match readings grammar word with
        | _ :: _ :: _ => .error .misuse
        | [(form, attached)] => .ok (.option form attached)
        | [] =>
          if isNegativeNumber word || word.contains ' ' then .ok (.plain text)
          else .ok .foreign
  | _ => .ok (.plain text)

/-- Classifies words; all after a double dash are plain. -/
def classifyAll (grammar : Grammar) : List String → Except Ending (List (String × Word))
  | [] => .ok []
  | text :: rest =>
    if text = "--" then .ok ((text, .divider) :: rest.map fun plain => (plain, .plain plain))
    else do
      let word ← classify grammar text
      return (text, word) :: (← classifyAll grammar rest)

/-! ## Reading arguments -/

structure Arguments where
  options : List (OptionRole × String) := []
  operand : Option (List String) := none
  hasExtra : Bool := false

/-- Short options that are written together, with the value that the last one has attached. -/
structure Cluster where
  forms : List OptionForm
  value : Option (List Char)

/-- The options in a word. What is attached to a short option without a value are the letters of
further options. -/
def cluster (grammar : Grammar) (form : OptionForm) : List Char → Except Ending Cluster
  | [] => if form.role.takesValue then .ok ⟨[form], some []⟩ else .error .misuse
  | letter :: rest =>
    if form.role.takesValue then .ok ⟨[form], some (letter :: rest)⟩
    else if form.spelling.take 2 == ['-', '-'] then .error .misuse
    else
      match exactForm? grammar ['-', letter] with
      | none => .error .misuse
      | some next =>
        if rest.isEmpty then .ok ⟨[form, next], none⟩
        else
          match cluster grammar next rest with
          | .ok more => .ok { more with forms := form :: more.forms }
          | .error ending => .error ending

/-- Takes in the options of a word; the value belongs to the last of them. -/
def takeForms (arguments : Arguments) : List OptionForm → String → Except Ending Arguments
  | [], _ => .ok arguments
  | form :: rest, value =>
    match form.role with
    | .help => .error .help
    | .version => .error .version
    | role =>
      takeForms { arguments with options := arguments.options ++ [(role, value)] } rest value

def takeOption (grammar : Grammar) (arguments : Arguments) (form : OptionForm)
    (attached : Option (List Char)) (rest : List (String × Word)) :
    Except Ending (Arguments × List (String × Word)) := do
  let found ← match attached with
    | some joined => cluster grammar form joined
    | none => pure ⟨[form], none⟩
  let needsWord := found.value.isNone &&
    ((found.forms.getLast?.map fun last => last.role.takesValue).getD false)
  match needsWord, rest with
  | false, _ =>
    return (← takeForms arguments found.forms (String.ofList (found.value.getD [])), rest)
  | true, (text, .plain _) :: more => return (← takeForms arguments found.forms text, more)
  | true, _ => throw .misuse

/-- The operand at the start of some words that are no options, with the words it leaves. A divider
before an operand, and dividers after it, go with it. -/
def takeOperand (grammar : Grammar) (words : List (String × Word)) :
    Option (List String × List (String × Word)) :=
  let isDivider (word : String × Word) : Bool := match word.2 with
    | .divider => true
    | _ => false
  let before := words.takeWhile isDivider
  match grammar.operand, words.dropWhile isDivider with
  | .nothing, _ => none
  | .command, (_, .plain _) :: _ => some (words.map Prod.fst, [])
  | .command, _ => none
  | _, (text, .plain _) :: rest => some ([text], rest.dropWhile isDivider)
  | .optional, rest => if before.isEmpty then none else some ([], rest)
  | .required, _ => none

/-- Takes the words before the next option: the operand, if it has not been read yet, and what else
stands there has no place. -/
def takeWords (grammar : Grammar) (arguments : Arguments) (words : List (String × Word)) :
    Arguments × List (String × Word) :=
  match if arguments.operand.isNone then takeOperand grammar words else none with
  | some (operand, rest) => ({ arguments with operand := some operand }, rest)
  | none =>
    let rest := words.dropWhile fun word => !word.2.isOption
    ({ arguments with hasExtra := arguments.hasExtra || rest.length < words.length }, rest)

/-- Reads words from left to right. Every step takes at least one word, so their number bounds the
steps. -/
def readWords (grammar : Grammar) :
    Nat → Arguments → List (String × Word) → Except Ending Arguments
  | 0, arguments, _ => .ok arguments
  | fuel + 1, arguments, words =>
    match words with
    | [] => .ok arguments
    | (_, .foreign) :: rest => readWords grammar fuel { arguments with hasExtra := true } rest
    | (_, .option form attached) :: rest => do
      let (next, left) ← takeOption grammar arguments form attached rest
      readWords grammar fuel next left
    | _ =>
      let (next, left) := takeWords grammar arguments words
      readWords grammar fuel next left

/-- Reads arguments by a grammar. A required operand has to be there. -/
def readArguments (grammar : Grammar) (words : List String) : Except Ending Arguments := do
  let classified ← classifyAll grammar words
  let arguments ← readWords grammar (classified.length + 1) {} classified
  if grammar.operand = .required && arguments.operand.isNone then throw .misuse
  return arguments

end FeatLoom.CommandLine
