import LogQuery.Command.Arguments
import LogQuery.Configuration
import LogQuery.Pipeline.Query
import LogQuery.Report.Basic
import LogQuery.Time.WindowSpec

/-! What commands do, given what stands around them: the time, the disk, the terminal. -/

set_option autoImplicit false

namespace LogQuery

structure Terminal where
  isLive : Bool := false
  hasColors : Bool := false
  columns : Nat := 80
  rows : Nat := 25
  deriving DecidableEq, Repr

structure Surroundings where
  now : Time.DateTime
  disk : Disk
  home? : Option String := none
  input : ByteStream := []
  terminal : Terminal := {}

structure Outcome where
  exitCode : Nat := 0
  output : String := ""
  messages : List String := []
  deriving DecidableEq, Repr

inductive CommandError where
  | window (spec : String) (cause : Time.WindowError)
  | fields (spec : String) (cause : FieldError)
  | configuration (cause : ConfigurationError)
  | category (cause : CategoryError)
  | opening (cause : Failure)
  | filter (cause : Pipeline.FilterError)
  deriving DecidableEq, Repr

/-- What went wrong, with what it was wrong for in front and the cause of the cause behind. -/
def CommandError.message : CommandError → String
  | window spec cause => s!"time window {Text.quoted spec}: {cause.message}"
  | fields spec cause => s!"fields {Text.quoted spec}: {cause.message}"
  | configuration cause =>
    let root := match cause with
      | .unreadable _ failure => s!": {failure.message}"
      | .malformed _ => ""
    s!"loading configuration: {cause.message}{root}"
  | category cause => cause.message
  | opening cause => cause.message
  | filter cause => s!"{cause.message}: {cause.cause.message}"

def CommandError.outcome (e : CommandError) (before : List String) : Outcome :=
  { exitCode := 1, messages := before ++ [s!"ERROR: {e.message}"] }

namespace Stop

def versionText : String := "logan Version: 0.3.0\nMSRV: 1.73.0\nLicense: MIT\n\n"

def helpLines : List String := [
  "Usage: logan <COMMAND>",
  "",
  "Commands:",
  "  list [FILTER]                   print the log categories, or those containing FILTER",
  "  show <CATEGORY> [FILTERS]...    print matching lines",
  "  uniq <CATEGORY> [FILTERS]...    print unique lines, the most frequent first",
  "  inspect <CATEGORY> [FILTERS]... print the columns of the first few lines",
  "  plot <CATEGORY> [FILTERS]...    chart the count of lines over time",
  "",
  "Options of every command:",
  "      --config <FILE>        configuration to read after the usual ones",
  "",
  "Options of every command but list:",
  "  -t, --time <WINDOW>        time window, such as -1h, 12:30+5m or 12:30-48h+15m [-1h]",
  "  -f, --fields <FIELDS>      columns to keep, such as 1-3,5",
  "  -z, --tz-offset <OFFSET>   offset of dates without one, such as +01, +05:30 or PST",
  "      --summary              print counts of bytes and lines at the end",
  "",
  "      --color <WHEN>         show: always, auto or never [auto]",
  "      --top <N>              uniq: print the N most frequent lines only",
  "  -n, --count <N>            inspect: count of lines [5]",
  "  -m, --mode <MODE>          plot: classic, block, quad or braille [classic]",
  "      --no-update            plot: draw the chart only at the end"]

def outcome : Stop → Outcome
  | help => { output := Report.asLines helpLines }
  | version => { output := versionText }
  | misuse cause => { exitCode := 2, messages := [s!"error: {cause.message}"] }

end Stop

def systemConfigPath : String := "/etc/logan.toml"

def userConfigName : String := ".logan.toml"

namespace Choices

def configPaths (choices : Choices) (home? : Option String) : List String :=
  [systemConfigPath] ++ (home?.map fun home => Path.join home userConfigName).toList ++
    choices.configPath?.toList

def library (choices : Choices) (around : Surroundings) : Except CommandError Library :=
  match Configuration.load around.disk (choices.configPaths around.home?) with
  | .ok configuration => .ok (configuration.library around.input)
  | .error cause => .error (.configuration cause)

end Choices

namespace View

def report (view : View) (choices : Choices) (window : Time.Window) (terminal : Terminal) : Report :=
  match view with
  | .show => .show (choices.color == .always || choices.color == .auto && terminal.hasColors)
  | .uniq => .ofTable ⟨choices.top, terminal.columns, terminal.isLive⟩
  | .inspect => .inspect choices.count 0
  | .plot =>
    let layout : Chart.Layout := {
      mode := choices.mode
      width := terminal.columns - 1
      height := terminal.rows - 1
      hasBorder := true
      hasTimeLabels := true
      hasCountLabels := true
      window }
    .ofChart layout (terminal.isLive && !choices.isStill)

end View

/-- A query with the chain that it is put to. Filters are not yet read. -/
structure Prepared where
  query : Pipeline.Query
  chain : Chain

namespace Choices

def prepare (choices : Choices) (category : String) (around : Surroundings) :
    Except CommandError Prepared := do
  let offset := choices.offset?.getD around.now.offset
  let now := around.now.withOffset offset
  let window ← (Time.Window.parse choices.time now).mapError (.window choices.time)
  let selection ← (Selection.parse choices.fields).mapError (.fields choices.fields)
  let library ← choices.library around
  let chain ← (library.resolve around.disk category).1.mapError .category
  return { query := { window, recognizer := ⟨offset, now⟩, selection }, chain }

end Choices

namespace Prepared

/-- Puts the query, with filters, to the chain. Hourly files that are missing are told of first,
then a failure that ended the stream, and the counts last. -/
def run (prepared : Prepared) (filters : List String) (report : Report) (hasSummary : Bool)
    (disk : Disk) : Outcome :=
  let (missing, opened) := prepared.chain.openFor disk prepared.query.window
  let warnings := missing.map fun path => s!"WARNING: {Chain.missingText path}"
  match opened, Pipeline.parseFilters filters with
  | .error cause, _ => (CommandError.opening cause).outcome warnings
  | .ok _, .error cause => (CommandError.filter cause).outcome warnings
  | .ok stream, .ok filters =>
    let query := { prepared.query with filters }
    match query.run stream Report.sink (report, "") with
    | ((_, output), .ok summary) =>
      let failure := summary.streamError.map fun message => s!"ERROR: reading log stream: {message}"
      { output
        messages := warnings ++ failure.toList ++ if hasSummary then summary.lines else [] }

end Prepared

namespace Command

def chain? (command : Command) (around : Surroundings) : Option (Chain × Time.Window) :=
  match command with
  | .list .. => none
  | .query _ category _ choices =>
    (choices.prepare category around).toOption.map fun prepared =>
      (prepared.chain, prepared.query.window)

def run (command : Command) (around : Surroundings) : Outcome :=
  match command with
  | .list filter? choices =>
    match choices.library around with
    | .ok library => { output := Report.asLines (library.listing around.disk filter?).1 }
    | .error e => e.outcome []
  | .query view category filters choices =>
    match choices.prepare category around with
    | .ok prepared =>
      let report := view.report choices prepared.query.window around.terminal
      prepared.run filters report choices.hasSummary around.disk
    | .error e => e.outcome []

def execute (words : List String) (around : Surroundings) : Outcome :=
  match parse words with
  | .ok command => command.run around
  | .error stop => stop.outcome

end Command

end LogQuery
