import LogQuery.Toml.Numeral
import LogQuery.Toml.Text

/-! Reading TOML documents: values under keys, in tables with headers. -/

set_option autoImplicit false

namespace LogQuery.Toml

mutual

def readValue? : (fuel : Nat) → List Char → Option (Value × List Char)
  | 0, _ => none
  | fuel + 1, text =>
    match text with
    | '"' :: rest => (readString? .double rest).map fun (s, rest) => (.string s, rest)
    | '\'' :: rest => (readString? .single rest).map fun (s, rest) => (.string s, rest)
    | '[' :: rest => readItems? fuel [] rest
    | '{' :: rest =>
      match skipBlanks rest with
      | '}' :: rest => some (.table .inline [], rest)
      | rest => readPairs? fuel [] rest
    | _ => do
      let (word, rest) := takeWord text
      return (← Value.ofWord? word, rest)

/-- Items up to the closing bracket, after those of `done`, last first. A comma may follow the last;
blanks, remarks and line ends may stand everywhere. -/
def readItems? : (fuel : Nat) → (done : List Value) → List Char → Option (Value × List Char)
  | 0, _, _ => none
  | fuel + 1, done, text =>
    match skipLines (text.length + 1) text with
    | ']' :: rest => some (.array done.reverse, rest)
    | text =>
      match readValue? fuel text with
      | none => none
      | some (item, rest) =>
        match skipLines (rest.length + 1) rest with
        | ',' :: rest => readItems? fuel (item :: done) rest
        | ']' :: rest => some (.array (item :: done).reverse, rest)
        | _ => none

def readPairs? : (fuel : Nat) → (done : Table) → List Char → Option (Value × List Char)
  | 0, _, _ => none
  | fuel + 1, done, text =>
    match readPair? fuel text with
    | none => none
    | some (key, value, rest) =>
      match done.add? .inline key value with
      | none => none
      | some table =>
        match skipBlanks rest with
        | ',' :: rest => readPairs? fuel table rest
        | '}' :: rest => some (.table .inline table, rest)
        | _ => none

def readPair? : (fuel : Nat) → List Char → Option (List String × Value × List Char)
  | 0, _ => none
  | fuel + 1, text =>
    match readKey? (text.length + 1) [] text with
    | some (key, '=' :: rest) => (readValue? fuel (skipBlanks rest)).map (key, ·)
    | _ => none

end

structure Document where
  table : Table := []
  header : List String := []

namespace Document

def readHeader? (brackets : Nat) (text : List Char) : Option (List String × List Char) := do
  let (key, rest) ← readKey? (text.length + 1) [] text
  if rest.take brackets == List.replicate brackets ']' then some (key, rest.drop brackets) else none

def readLine? (document : Document) (text : List Char) : Option (Document × List Char) :=
  match skipBlanks text with
  | '[' :: '[' :: rest => do
    let (header, rest) ← readHeader? 2 rest
    return (⟨← document.table.openItem? header, header⟩, ← endLine? rest)
  | '[' :: rest => do
    let (header, rest) ← readHeader? 1 rest
    return (⟨← document.table.openTable? header, header⟩, ← endLine? rest)
  | text =>
    match endLine? text with
    | some rest => some (document, rest)
    | none => do
      let (key, value, rest) ← readPair? (text.length + 1) text
      let table ← document.table.addBelow? document.header key value
      return ({ document with table }, ← endLine? rest)

def readLines? : (fuel : Nat) → Document → List Char → Option Document
  | _, document, [] => some document
  | 0, _, _ => none
  | fuel + 1, document, text =>
    match document.readLine? text with
    | some (document, rest) => readLines? fuel document rest
    | none => none

end Document

/-- The table that a document makes, if it is well formed. A mark of the byte order may stand in
front. -/
def Table.parse? (text : String) : Option Table :=
  let text := match text.toList with
    | '\uFEFF' :: rest => rest
    | text => text
  (Document.readLines? text.length {} text).map (·.table)

end LogQuery.Toml
