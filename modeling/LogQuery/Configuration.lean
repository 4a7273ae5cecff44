import LogQuery.Files.Disk
import LogQuery.Source.Library
import LogQuery.Text.Basic
import LogQuery.Toml.Reader

/-! Where the sources keep their files.

A configuration starts from what holds without any file. Files of TOML are laid over it one after
the other; each is taken as a whole or not at all, and each key that it sets takes the place of what
was set before.
-/

set_option autoImplicit false

namespace LogQuery

structure Configuration where
  hourlyDirectories : List String := ["/mnt/scribe", "/var/log/scribe"]
  rotatedDirectories : List String := ["/var/log"]
  recursion : Nat := 1
  deriving DecidableEq, Repr

inductive ConfigurationError where
  | unreadable (path : String) (cause : Failure)
  | malformed (path : String)
  deriving DecidableEq, Repr

def ConfigurationError.message : ConfigurationError → String
  | unreadable path cause => s!"reading config {Text.quoted path}: {cause.message}"
  | malformed path => s!"parsing config {Text.quoted path}"

namespace Configuration

structure Layer where
  hourlyDirectories? : Option (List String) := none
  rotatedDirectories? : Option (List String) := none
  recursion? : Option Nat := none
  deriving DecidableEq, Repr

def apply (configuration : Configuration) (layer : Layer) : Configuration where
  hourlyDirectories := layer.hourlyDirectories?.getD configuration.hourlyDirectories
  rotatedDirectories := layer.rotatedDirectories?.getD configuration.rotatedDirectories
  recursion := layer.recursion?.getD configuration.recursion

namespace Layer

def directories? : Toml.Value → Option (List String)
  | .array items => items.mapM fun
    | .string directory => some directory
    | _ => none
  | .string joined =>
    some (((Text.splitAt ':' joined.toList).filter (!·.isEmpty)).map String.ofList)
  | _ => none

def depth? : Toml.Value → Option Nat
  | .integer value => if value < 0 then none else some value.toNat
  | _ => none

/-- A section with no keys but these. It may also be an array of their values in order; what stands
behind them is passed over. -/
def settings? (keys : List String) : Toml.Value → Option Toml.Table
  | .table _ entries => if entries.all fun (key, _) => keys.contains key then some entries else none
  | .array items => if keys.length ≤ items.length then some (keys.zip items) else none
  | _ => none

def valueOf? {α : Type} (table : Toml.Table) (key : String) (read? : Toml.Value → Option α) :
    Option (Option α) :=
  match table.lookup key with
  | none => some none
  | some value => (read? value).map some

def ofTable? (document : Toml.Table) : Option Layer := do
  let sections ← settings? [Library.hourlyName, Library.rotatedName] (.table .header document)
  let hourly := (← valueOf? sections Library.hourlyName (settings? ["dirs"])).getD []
  let rotated := (← valueOf? sections Library.rotatedName (settings? ["dirs", "recursion"])).getD []
  return {
    hourlyDirectories? := ← valueOf? hourly "dirs" directories?
    rotatedDirectories? := ← valueOf? rotated "dirs" directories?
    recursion? := ← valueOf? rotated "recursion" depth? }

def parse? (text : String) : Option Layer := do ofTable? (← Toml.Table.parse? text)

end Layer

/-- The configuration behind a text, and whether the text is accepted. -/
def mergeText (configuration : Configuration) (text : String) : Configuration × Bool :=
  match Layer.parse? text with
  | some layer => (configuration.apply layer, true)
  | none => (configuration, false)

def applyText? (configuration : Configuration) (text : String) : Option Configuration :=
  match configuration.mergeText text with
  | (merged, true) => some merged
  | (_, false) => none

/-- Lays a file over the configuration. One that is not there changes nothing. -/
def applyFile (configuration : Configuration) (disk : Disk) (path : String) :
    Except ConfigurationError Configuration :=
  match disk.readText path with
  | .ok text => (configuration.applyText? text).elim (.error (.malformed path)) .ok
  | .error cause =>
    if cause.kind == .notFound then .ok configuration else .error (.unreadable path cause)

def load (disk : Disk) (paths : List String) : Except ConfigurationError Configuration :=
  paths.foldlM (fun configuration path => configuration.applyFile disk path) {}

def library (configuration : Configuration) (input : ByteStream) : Library where
  shelf := { directories := configuration.rotatedDirectories, recursion := configuration.recursion }
  hourlyDirectories := configuration.hourlyDirectories
  input

end Configuration

end LogQuery
