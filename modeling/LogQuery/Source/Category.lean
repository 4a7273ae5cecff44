import LogQuery.Source.Chain
import LogQuery.Text.Basic

/-! Sources of logs, and the categories by which they are asked for.

A category is named with its source, as `generic/syslog`, or alone if only one source has it.
-/

set_option autoImplicit false

namespace LogQuery

structure Source where
  name : String
  categories : List String
  contains : String → Bool
  chain? : String → Option Chain

namespace Source

def qualify (source : Source) (category : String) : String := s!"{source.name}/{category}"

def ofCatalog (name : String) (catalog : Catalog) : Source where
  name
  categories := catalog.categories
  contains category := (catalog.files? category).isSome
  chain? category := (catalog.files? category).map .rotated

/-- A source of hourly files, given each category and the directory that its directory is in. -/
def ofHomes (name : String) (homes : List (String × String)) : Source where
  name
  categories := homes.map (·.1)
  contains category := (homes.lookup category).isSome
  chain? category := (homes.lookup category).map (.hourly · category)

def ofStreams (name : String) (streams : List (String × ByteStream)) : Source where
  name
  categories := streams.map (·.1)
  contains category := (streams.lookup category).isSome
  chain? category := (streams.lookup category).map .direct

end Source

inductive CategoryError where
  | badFormat (text : String)
  | sourceNotFound (name : String)
  | categoryNotFound (text : String)
  | ambiguous (category : String) (candidates : List String)
  deriving DecidableEq, Repr

def CategoryError.message : CategoryError → String
  | badFormat text => s!"log source must be in the format source/category, got {Text.quoted text}"
  | sourceNotFound name => s!"log source {Text.quoted name} not found"
  | categoryNotFound text => s!"category {Text.quoted text} not found"
  | ambiguous category candidates =>
    let choice := ", ".intercalate candidates
    s!"category {Text.quoted category} is ambiguous, use one of {choice}"

inductive Address where
  | malformed
  | qualified (source category : String)
  | bare
  deriving DecidableEq, Repr

def splitAtSlash? (text : String) : Option (String × String) :=
  (Text.splitAtFirst? '/' text.toList).map fun (front, rest) =>
    (String.ofList front, String.ofList rest)

def Address.read (names : List String) (text : String) : Address :=
  if text.isEmpty then .malformed
  else match splitAtSlash? text with
    | none => .bare
    | some (source, category) =>
      if !names.contains source then .bare
      else if category.isEmpty then .malformed
      else .qualified source category

namespace Source

def occursIn (part : List Char) : List Char → Bool
  | [] => part.isEmpty
  | c :: rest => part.isPrefixOf (c :: rest) || occursIn part rest

/-- The categories of all sources with their sources, in order, or those that contain a text. -/
def listing (sources : List Source) (filter : Option String) : List String :=
  let names := sources.flatMap fun source => source.categories.map source.qualify
  (match filter with
    | none => names
    | some part => names.filter fun name => occursIn part.toList name.toList).mergeSort

def resolveBare (sources : List Source) (text : String) : Except CategoryError Chain :=
  match sources.filter (·.contains text) with
  | [] =>
    match splitAtSlash? text with
    | some (name, _) => .error (.sourceNotFound name)
    | none => .error (.categoryNotFound text)
  | [source] =>
    match source.chain? text with
    | some chain => .ok chain
    | none => .error (.categoryNotFound text)
  | many => .error (.ambiguous text (many.map (·.qualify text)))

def resolve (sources : List Source) (text : String) : Except CategoryError Chain :=
  match Address.read (sources.map (·.name)) text with
  | .malformed => .error (.badFormat text)
  | .bare => resolveBare sources text
  | .qualified name category =>
    match (sources.find? (·.name == name)).bind (·.chain? category) with
    | some chain => .ok chain
    | none => .error (.categoryNotFound text)

end Source

end LogQuery
