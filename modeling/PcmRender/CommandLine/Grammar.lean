/-
  PcmRender.CommandLine.Grammar — **reading the words of a command line.**

  A level of a command line has options, positional words and commands.  A command ends its level
  and begins one of its own.  On each level:

      --name value  --name=value    an option with a value
      -x value  -xvalue  -x=value   the same by its letter
      --name  -x  -xyz              options without a value, letters together
      --                            all later words are positional
      anything else                 a command where there are any, or a positional word

  A value that follows as a word of its own is *pending* until the next option or positional word,
  or the end of its level; only then it is judged.  So of two faults the one that is noticed first
  is the one reported: an unknown option before an unfit value in front of it.

  Main definitions:
    * `OptionRule`, `Grammar`, `Refusal`,
    * `CommandLine.readWords` — one level,
    * `CommandLine.readLevel` — one level without commands, up to its end.
-/

namespace PcmRender

/-! ## §1. Grammars. -/

/-- Why a command line is refused. -/
inductive Refusal
  /-- There is no such option, or no place for a word. -/
  | unknownArgument
  /-- A value is missing, or is none of those possible. -/
  | invalidValue
  /-- A value cannot be read. -/
  | valueValidation
  /-- A required word is missing. -/
  | missingRequired
  /-- There is no such command. -/
  | invalidSubcommand
  /-- An option is given twice. -/
  | argumentConflict
  /-- An option that takes no value is given one. -/
  | tooManyValues
  /-- Help is asked for. -/
  | displayHelp
  /-- The version is asked for. -/
  | displayVersion
  /-- There is nothing on the command line. -/
  | displayHelpOnMissing
  /-- There are options and no command. -/
  | missingSubcommand
deriving DecidableEq, Inhabited, Repr

/-- What an option does. -/
inductive OptionKind
  /-- It has a value, which is refused by a rule of its own. -/
  | value (refuse : String → Option Refusal)
  /-- It is there or not. -/
  | flag
  /-- It counts how often it is there. -/
  | count
  /-- It asks for help. -/
  | help
  /-- It asks for the version. -/
  | version

/-- An option. -/
structure OptionRule where
  /-- Its name. -/
  name : String
  /-- Its letter, if it has one. -/
  letter : Option Char := none
  /-- What it does. -/
  kind : OptionKind

/-- What may stand on one level. -/
structure Grammar where
  /-- The options. -/
  options : List OptionRule
  /-- How many positional words there are; each of them is required. -/
  positionals : Nat := 0
  /-- The commands. -/
  commands : List String := []

/-- What stands on one level. -/
structure Words where
  /-- The values of options, by name. -/
  values : List (String × String) := []
  /-- The options without a value, by name, as often as they are there. -/
  raised : List String := []
  /-- The positional words. -/
  positionals : List String := []
deriving DecidableEq, Inhabited, Repr

namespace Words

/-- The value of an option. -/
def value? (w : Words) (name : String) : Option String := (w.values.find? (·.1 == name)).map Prod.snd

/-- Whether an option is there. -/
def has (w : Words) (name : String) : Bool := w.raised.contains name

/-- How often an option is there, up to the largest number of a byte. -/
def times (w : Words) (name : String) : Nat := min (w.raised.count name) 255

/-- Whether nothing is there. -/
def isEmpty (w : Words) : Bool := w.values.isEmpty && w.raised.isEmpty && w.positionals.isEmpty

end Words

/-- How far the reading of a level has come. -/
structure Reading where
  /-- What has been judged. -/
  words : Words := {}
  /-- An option whose value has not been judged, and the value if it has come. -/
  pending : Option (OptionRule × Option String) := none
  /-- Whether the next word is the value of the pending option. -/
  awaiting : Bool := false
  /-- Whether all later words are positional. -/
  trailing : Bool := false

namespace CommandLine

/-! ## §2. Judging options. -/

/-- Adds the value of an option. -/
def addValue (r : Reading) (rule : OptionRule) (value : String) : Except Refusal Reading :=
  if (r.words.value? rule.name).isSome then .error .argumentConflict
  else match rule.kind with
    | .value refuse =>
      match refuse value with
      | some refusal => .error refusal
      | none => .ok { r with words := { r.words with values := r.words.values ++ [(rule.name, value)] } }
    | _ => .ok r

/-- Judges the pending option. -/
def resolve (r : Reading) : Except Refusal Reading :=
  match r.pending with
  | none => .ok r
  | some (_, none) => .error .invalidValue
  | some (rule, some value) => addValue { r with pending := none, awaiting := false } rule value

/-- Adds an option without a value. -/
def raise (r : Reading) (rule : OptionRule) : Except Refusal Reading :=
  match resolve r with
  | .error e => .error e
  | .ok r =>
    let added := { r with words := { r.words with raised := r.words.raised ++ [rule.name] } }
    match rule.kind with
    | .help => .error .displayHelp
    | .version => .error .displayVersion
    | .count => .ok added
    | _ => if r.words.has rule.name then .error .argumentConflict else .ok added

/-- Reads an option that takes a value, which is attached to it or comes as the next word. -/
def takeValue (r : Reading) (rule : OptionRule) (attached : Option String) :
    Except Refusal Reading :=
  match resolve r with
  | .error e => .error e
  | .ok r =>
    match attached with
    | some value => addValue r rule value
    | none => .ok { r with pending := some (rule, none), awaiting := true }

/-- Whether an option takes a value. -/
def OptionRule.takesValue (rule : OptionRule) : Bool :=
  match rule.kind with
  | .value _ => true
  | _ => false

/-! ## §3. Reading words. -/

/-- Reads an option by its name, behind the two dashes. -/
def readLong (g : Grammar) (r : Reading) (text : List Char) : Except Refusal Reading :=
  let name := String.ofList (text.takeWhile (· != '='))
  let attached := match text.dropWhile (· != '=') with
    | _ :: value => some (String.ofList value)
    | [] => none
  match g.options.find? (·.name == name) with
  | none => .error .unknownArgument
  | some rule =>
    if OptionRule.takesValue rule then takeValue r rule attached
    else if attached.isSome then .error .tooManyValues
    else raise r rule

/-- Reads options by their letters, behind the dash. -/
def readShort (g : Grammar) (r : Reading) : List Char → Except Refusal Reading
  | [] => .ok r
  | c :: rest =>
    match g.options.find? (·.letter == some c) with
    | none => .error .unknownArgument
    | some rule =>
      if OptionRule.takesValue rule then takeValue r rule (attached rest)
      else match raise r rule with
        | .error e => .error e
        | .ok r => readShort g r rest
where
  /-- The value behind a letter, with or without a sign of equality. -/
  attached : List Char → Option String
    | [] => none
    | '=' :: value => some (String.ofList value)
    | value => some (String.ofList value)

/-- Whether a word names a command, that for help included. -/
def isCommand (g : Grammar) (word : String) : Bool :=
  !g.commands.isEmpty && (g.commands.contains word || word == "help")

/-- The refusal of a word for which there is no place. -/
def misplaced (g : Grammar) (r : Reading) (word : String) : Refusal :=
  if r.trailing && isCommand g word then .unknownArgument
  else if g.commands.isEmpty then .unknownArgument
  else .invalidSubcommand

/-- Reads a positional word. -/
def readPositional (g : Grammar) (r : Reading) (word : String) : Except Refusal Reading :=
  if r.words.positionals.length < g.positionals then
    match resolve r with
    | .error e => .error e
    | .ok r =>
      .ok { r with words := { r.words with positionals := r.words.positionals ++ [word] } }
  else .error (misplaced g r word)

/-- Reads a word that is no command and comes before the end of options. -/
def readWord (g : Grammar) (r : Reading) (word : String) : Except Refusal Reading :=
  match word.toList, r.pending with
  | ['-', '-'], _ => .ok { r with trailing := true }
  | '-' :: '-' :: text, _ => readLong g r text
  | '-' :: c :: text, _ => readShort g r (c :: text)
  | _, some (rule, none) =>
    if r.awaiting then .ok { r with pending := some (rule, some word), awaiting := false }
    else readPositional g r word
  | _, _ => readPositional g r word

/-- Reads the words of a level up to a command, which is answered with the words behind it. -/
def readWords (g : Grammar) : Reading → List String →
    Except Refusal (Reading × Option (String × List String))
  | r, [] => .ok (r, none)
  | r, word :: rest =>
    if r.trailing then
      match readPositional g r word with
      | .error e => .error e
      | .ok r => readWords g r rest
    -- A word that is awaited as a value is no command, whatever it reads.
    else if !r.awaiting && isCommand g word then .ok (r, some (word, rest))
    else match readWord g r word with
      | .error e => .error e
      | .ok r => readWords g r rest

/-- Reads a whole level that has no commands. -/
def readLevel (g : Grammar) (words : List String) : Except Refusal Words :=
  match readWords g {} words with
  | .error e => .error e
  | .ok (r, _) =>
    match resolve r with
    | .error e => .error e
    | .ok r =>
      if r.words.positionals.length < g.positionals then .error .missingRequired else .ok r.words

/-- The answer to the command for help, whose words have to be commands. -/
def helpRefusal (g : Grammar) : List String → Refusal
  | [] => .displayHelp
  | [word] => if isCommand g word then .displayHelp else .invalidSubcommand
  | _ => .invalidSubcommand

/-- The refusal of a level that ends without the command it needs. -/
def commandMissing (words : Words) : Refusal :=
  if words.isEmpty then .displayHelpOnMissing else .missingSubcommand

/-- Reads a command line: the words of the first level, the command, and the words of its level.
The second level is judged before what is pending on the first. -/
def readCommand (top : Grammar) (level : String → Grammar) (words : List String) :
    Except Refusal (Words × String × Words) :=
  match readWords top {} words with
  | .error e => .error e
  | .ok (r, none) =>
    match resolve r with
    | .error e => .error e
    | .ok r => .error (commandMissing r.words)
  | .ok (r, some (command, rest)) =>
    if command = "help" then .error (helpRefusal top rest)
    else match readLevel (level command) rest with
      | .error e => .error e
      | .ok inner =>
        -- Only now the value in front of the command is judged.
        match resolve r with
        | .error e => .error e
        | .ok r => .ok (r.words, command, inner)

end CommandLine

end PcmRender
