import LogQuery.Chart.Mode
import LogQuery.Text.Basic
import LogQuery.Time.Reading

/-! Commands as they are written on a command line.

The name of a command comes first, then options and operands in any order. An option is written
`--name value` or `--name=value`, one with a letter also `-n value`, `-nvalue` or `-n=value`. Behind
`--` everything is an operand. Words are read in order, and the first that asks for help or cannot
be understood ends the reading. -/

set_option autoImplicit false

namespace LogQuery

inductive View where
  | show
  | uniq
  | inspect
  | plot
  deriving DecidableEq, Repr

inductive Verb where
  | list
  | view (view : View)
  deriving DecidableEq, Repr

def Verb.ofName? : String → Option Verb
  | "list" => some .list
  | "show" => some (.view .show)
  | "uniq" => some (.view .uniq)
  | "inspect" => some (.view .inspect)
  | "plot" => some (.view .plot)
  | _ => none

inductive Setting where
  | time
  | fields
  | offset
  | config
  | summary
  | color
  | top
  | count
  | mode
  | noUpdate
  deriving DecidableEq, Repr

namespace Setting

def name : Setting → String
  | time => "time"
  | fields => "fields"
  | offset => "tz-offset"
  | config => "config"
  | summary => "summary"
  | color => "color"
  | top => "top"
  | count => "count"
  | mode => "mode"
  | noUpdate => "no-update"

def letter? : Setting → Option Char
  | time => some 't'
  | fields => some 'f'
  | offset => some 'z'
  | count => some 'n'
  | mode => some 'm'
  | _ => none

def isFlag (setting : Setting) : Bool := setting == summary || setting == noUpdate

/-- May the next word be the value even if it looks like an option? Times begin with a hyphen. -/
def takesHyphens (setting : Setting) : Bool := setting == time

end Setting

def Verb.settings : Verb → List Setting
  | list => [.config]
  | view kind =>
    [.time, .fields, .offset, .config, .summary] ++
      match kind with
      | .show => [.color]
      | .uniq => [.top]
      | .inspect => [.count]
      | .plot => [.mode, .noUpdate]

inductive ColorChoice where
  | always
  | auto
  | never
  deriving DecidableEq, Repr

def ColorChoice.ofName? : String → Option ColorChoice
  | "always" => some always
  | "auto" => some auto
  | "never" => some never
  | _ => none

structure Choices where
  time : String := "-1h"
  fields : String := ""
  /-- seconds east of UTC for dates that are written without an offset; by default those of the
  clock -/
  offset? : Option Int := none
  configPath? : Option String := none
  hasSummary : Bool := false
  color : ColorChoice := .auto
  /-- rows of the table, or 0 for all -/
  top : Nat := 0
  count : Nat := 5
  mode : Chart.Mode := .classic
  isStill : Bool := false
  deriving DecidableEq, Repr

def Choices.set? (choices : Choices) (setting : Setting) (text : String) : Option Choices :=
  match setting with
  | .time => some { choices with time := text }
  | .fields => some { choices with fields := text }
  | .offset => (Time.parseOffset text).map ({ choices with offset? := some · })
  | .config => if text.isEmpty then none else some { choices with configPath? := some text }
  | .summary => some { choices with hasSummary := true }
  | .color => (ColorChoice.ofName? text).map ({ choices with color := · })
  | .top => (Text.readWord? text.toList).map ({ choices with top := · })
  | .count => (Text.readWord? text.toList).map ({ choices with count := · })
  | .mode => (Chart.Mode.all.find? (·.name == text)).map ({ choices with mode := · })
  | .noUpdate => some { choices with isStill := true }

inductive Misuse where
  | noCommand
  | unknownCommand (name : String)
  | unknownOption (word : String)
  | missingValue (word : String)
  | unwantedValue (word : String)
  | badValue (setting : Setting) (text : String)
  | repeated (setting : Setting)
  | missingCategory
  | extraOperand (word : String)
  deriving DecidableEq, Repr

def Misuse.message : Misuse → String
  | noCommand => "a command is needed"
  | unknownCommand name => s!"unknown command {Text.quoted name}"
  | unknownOption word => s!"unknown option {Text.quoted word}"
  | missingValue word => s!"option {Text.quoted word} needs a value"
  | unwantedValue word => s!"option {Text.quoted word} takes no value"
  | badValue setting text => s!"invalid value {Text.quoted text} for --{setting.name}"
  | repeated setting => s!"--{setting.name} is given more than once"
  | missingCategory => "a category is needed"
  | extraOperand word => s!"unexpected argument {Text.quoted word}"

inductive Stop where
  | help
  | version
  | misuse (cause : Misuse)
  deriving DecidableEq, Repr

inductive Label where
  | long (name : String)
  | short (letter : Char)
  deriving DecidableEq, Repr

def Label.names (label : Label) (setting : Setting) : Bool :=
  match label with
  | long name => name == setting.name
  | short letter => setting.letter? == some letter

def Label.isHelp (label : Label) : Bool := label == long "help" || label == short 'h'

def Label.isVersion (label : Label) : Bool := label == long "version" || label == short 'V'

inductive Word where
  | operand
  | separator
  | option (label : Label) (value? : Option String)
  deriving DecidableEq, Repr

def Word.ofText (text : String) : Word :=
  match text.toList with
  | ['-', '-'] => .separator
  | '-' :: '-' :: long =>
    match Text.splitAtFirst? '=' long with
    | some (name, value) => .option (.long (String.ofList name)) (some (String.ofList value))
    | none => .option (.long (String.ofList long)) none
  | ['-', letter] => .option (.short letter) none
  | '-' :: letter :: '=' :: value => .option (.short letter) (some (String.ofList value))
  | '-' :: letter :: value => .option (.short letter) (some (String.ofList value))
  | _ => .operand

structure Arguments where
  operands : List String := []
  given : List Setting := []
  choices : Choices := {}
  deriving DecidableEq, Repr

namespace Arguments

def add (verb : Verb) (arguments : Arguments) (word : String) : Except Stop Arguments :=
  if verb == .list && !arguments.operands.isEmpty then .error (.misuse (.extraOperand word))
  else .ok { arguments with operands := arguments.operands ++ [word] }

def set (arguments : Arguments) (setting : Setting) (text : String) : Except Stop Arguments :=
  if arguments.given.contains setting then .error (.misuse (.repeated setting))
  else match arguments.choices.set? setting text with
    | some choices => .ok { arguments with given := setting :: arguments.given, choices }
    | none => .error (.misuse (.badValue setting text))

/-- Asks for help with this option, which takes no value but may have letters behind it. -/
def helpStop (label : Label) (value? : Option String) (word : String) (stop : Stop) : Stop :=
  match label, value? with
  | .long _, some _ => .misuse (.unwantedValue word)
  | _, _ => stop

def read (verb : Verb) (arguments : Arguments) : List String → Except Stop Arguments
  | [] => .ok arguments
  | word :: rest =>
    match Word.ofText word with
    | .separator => rest.foldlM (add verb) arguments
    | .operand => do read verb (← arguments.add verb word) rest
    | .option label value? =>
      if label.isHelp then .error (helpStop label value? word .help)
      else match verb.settings.find? label.names with
        | none => .error (.misuse (.unknownOption word))
        | some setting =>
          match setting.isFlag, value? with
          | true, some _ => .error (.misuse (.unwantedValue word))
          | true, none => do read verb (← arguments.set setting "") rest
          | false, some value => do read verb (← arguments.set setting value) rest
          | false, none =>
            match rest with
            | [] => .error (.misuse (.missingValue word))
            | value :: rest =>
              if setting.takesHyphens || Word.ofText value == .operand then do
                read verb (← arguments.set setting value) rest
              else .error (.misuse (.missingValue word))

end Arguments

inductive Command where
  | list (filter? : Option String) (choices : Choices)
  | query (view : View) (category : String) (filters : List String) (choices : Choices)
  deriving DecidableEq, Repr

namespace Command

def choices : Command → Choices
  | list _ choices => choices
  | query _ _ _ choices => choices

def ofArguments (verb : Verb) (arguments : Arguments) : Except Stop Command :=
  match verb, arguments.operands with
  | .list, operands => .ok (.list operands.head? arguments.choices)
  | .view _, [] => .error (.misuse .missingCategory)
  | .view view, category :: filters => .ok (.query view category filters arguments.choices)

/-- Help may be asked for on one command at most. -/
def helpOn : List String → Stop
  | [] | ["help"] => .help
  | [name] => if (Verb.ofName? name).isSome then .help else .misuse (.unknownCommand name)
  | _ :: name :: _ => .misuse (.unknownCommand name)

def parse : List String → Except Stop Command
  | [] => .error (.misuse .noCommand)
  | "help" :: rest => .error (helpOn rest)
  | word :: rest =>
    match Verb.ofName? word, Word.ofText word with
    | some verb, _ => do ofArguments verb (← Arguments.read verb {} rest)
    | none, .option label value? =>
      if label.isHelp then .error (Arguments.helpStop label value? word .help)
      else if label.isVersion then .error (Arguments.helpStop label value? word .version)
      else .error (.misuse (.unknownOption word))
    | none, _ => .error (.misuse (.unknownCommand word))

end Command

end LogQuery
