import LogQuery.Regex.Flags
import LogQuery.Text.Basic
import LogQuery.Unicode.Basic

/-! Reading regular expressions.

An expression is read from left to right with the flags that hold at each place. There are groups,
classes with set operations, counted repetitions, anchors and word boundaries; no references to
groups and no look-around.
-/

set_option autoImplicit false

namespace LogQuery.Regex

open Unicode (CharSet)

/-- Something read: its expression, how deeply it is nested, and whether it is something that a
repetition may follow. -/
structure Item where
  regex : Regex
  depth : Nat
  repeatable : Bool := true

def nestLimit : Nat := 250

def Item.sequence (items : List Item) : Item :=
  match items with
  | [] => ⟨.empty, 0, false⟩
  | [item] => item
  | _ => ⟨Regex.sequence (items.map Item.regex), 1 + (items.map Item.depth).foldl max 0, true⟩

def Item.alternatives (items : List Item) : Item :=
  match items with
  | [item] => item
  | _ => ⟨Regex.anyOf (items.map Item.regex), 1 + (items.map Item.depth).foldl max 0, true⟩

def skipExtended (flags : Flags) (text : List Char) : List Char :=
  if !flags.extended then text else go text.length text
where
  go : (fuel : Nat) → List Char → List Char
    | 0, text => text
    | fuel + 1, text =>
      match text with
      | '#' :: rest => go fuel ((rest.dropWhile (· != '\n')).drop 1)
      | c :: rest => if Unicode.isBlank c then go fuel rest else text
      | [] => []

/-- Characters that a backslash makes stand for themselves: all of ASCII but letters, digits and
the two that mark word boundaries. -/
def isEscapable (c : Char) : Bool :=
  c.toNat < 0x80 && !c.isAlphanum && c != '<' && c != '>'

def charOfCode? (code : Nat) : Option Char :=
  if code < 0xD800 || (0xDFFF < code && code ≤ Unicode.lastCode) then some (Char.ofNat code) else none

def readHexDigits (flags : Flags) : (count : Nat) → (done : List Char) → List Char →
    Option (List Char × List Char)
  | 0, done, text => some (done.reverse, text)
  | count + 1, done, text =>
    match text with
    | c :: rest =>
      if (Text.hexDigit? c).isSome then readHexDigits flags count (c :: done) (skipExtended flags rest)
      else none
    | [] => none

def readHexEscape (flags : Flags) (kind : Char) (text : List Char) : Option (Char × List Char) :=
  match skipExtended flags text with
  | '\x7b' :: rest =>
    match rest.span (· != '\x7d') with
    | (inside, _ :: rest) => do
      let digits := if flags.extended then inside.filter (!Unicode.isBlank ·) else inside
      let c ← charOfCode? (← Text.readBase? 16 digits)
      some (c, skipExtended flags rest)
    | (_, []) => none
  | text => do
    let count := if kind == 'x' then 2 else if kind == 'u' then 4 else 8
    let (digits, rest) ← readHexDigits flags count [] text
    some (← charOfCode? (← Text.readBase? 16 digits), rest)

def readProperty (flags : Flags) (negated : Bool) (text : List Char) :
    Option (CharSet × List Char) := do
  let ((set, inverted), rest) ←
    match skipExtended flags text with
    | '\x7b' :: rest =>
      match rest.span (· != '\x7d') with
      | (name, _ :: rest) => do
        let name := if flags.extended then name.filter (!Unicode.isBlank ·) else name
        some (← bracedChars? (String.ofList name), rest)
      | (_, []) => none
    | c :: rest =>
      if c == '\\' then none
      else do some ((← namedChars? c.toString, false), skipExtended flags rest)
    | [] => none
  if flags.unicode then
    some (flags.complementIf (negated != inverted) (flags.foldCase set), rest)
  else none

inductive Escape where
  | char (c : Char) (byte : Bool)
  | set (set : CharSet)
  | look (test : Look)

/-- A word boundary with its kind in braces, or a plain one if no name stands in them. -/
def readBoundary (flags : Flags) (text : List Char) : Option (Look × List Char) :=
  let plain := Look.wordBoundary flags.unicode
  match text with
  | '\x7b' :: rest =>
    let inside := skipExtended flags rest
    let isNameChar (c : Char) : Bool := c.isAlpha || c == '-'
    match inside with
    | [] => none
    | c :: _ =>
      if !isNameChar c then some (plain, text)
      else
        let (name, rest) := inside.span fun c => isNameChar c || (flags.extended && Unicode.isBlank c)
        match rest with
        | '\x7d' :: rest =>
          match String.ofList (name.filter isNameChar) with
          | "start" => some (.wordStart flags.unicode, rest)
          | "end" => some (.wordEnd flags.unicode, rest)
          | "start-half" => some (.wordStartHalf flags.unicode, rest)
          | "end-half" => some (.wordEndHalf flags.unicode, rest)
          | _ => none
        | _ => none
  | _ => some (plain, text)

def readEscape (flags : Flags) (text : List Char) : Option (Escape × List Char) :=
  match text with
  | [] => none
  | c :: rest =>
    let one (c : Char) : Option (Escape × List Char) := some (.char c false, rest)
    if isEscapable c then one c
    else match c with
      | 'x' | 'u' | 'U' => (readHexEscape flags c rest).map fun (value, rest) =>
          (.char value (c == 'x' && value.toNat ≤ 0xFF), rest)
      | 'p' => (readProperty flags false rest).map fun (set, rest) => (.set set, rest)
      | 'P' => (readProperty flags true rest).map fun (set, rest) => (.set set, rest)
      | 'a' => one '\x07'
      | 'f' => one '\x0c'
      | 't' => one '\t'
      | 'n' => one '\n'
      | 'r' => one '\r'
      | 'v' => one '\x0b'
      | 'A' => some (.look .textStart, rest)
      | 'z' => some (.look .textEnd, rest)
      | 'b' => (readBoundary flags rest).map fun (test, rest) => (.look test, rest)
      | 'B' => some (.look (.notWordBoundary flags.unicode), rest)
      | '<' => some (.look (.wordStart flags.unicode), rest)
      | '>' => some (.look (.wordEnd flags.unicode), rest)
      | _ => (flags.perlClass? c).map fun set => (.set set, rest)

def readAsciiClass (flags : Flags) (text : List Char) : Option (CharSet × List Char) :=
  match text with
  | ':' :: rest =>
    let (negated, rest) := match rest with
      | '^' :: rest => (true, rest)
      | _ => (false, rest)
    match rest.span (· != ':') with
    | (name, ':' :: ']' :: rest) => (asciiClass? (String.ofList name)).map fun ranges =>
        (flags.complementIf negated (flags.foldCase (CharSet.ofRanges ranges)), rest)
    | _ => none
  | _ => none

inductive ClassItem where
  | char (c : Char)
  | set (set : CharSet)

def readClassItem (flags : Flags) (text : List Char) : Option (ClassItem × List Char) :=
  match text with
  | '\\' :: rest =>
    match readEscape flags rest with
    | some (.char c byte, rest) =>
      if flags.unicode || byte || c.toNat < 0x80 then some (.char c, rest) else none
    | some (.set set, rest) => some (.set set, rest)
    | _ => none
  | c :: rest => if flags.unicode || c.toNat < 0x80 then some (.char c, rest) else none
  | [] => none

def readClassRange (flags : Flags) (text : List Char) : Option (CharSet × List Char) := do
  let (first, rest) ← readClassItem flags text
  let rest := skipExtended flags rest
  let alone : Option (CharSet × List Char) :=
    match first with
    | .char c => some (CharSet.single c, rest)
    | .set set => some (set, rest)
  match rest with
  | '-' :: afterHyphen =>
    let afterHyphen := skipExtended flags afterHyphen
    match afterHyphen with
    | [] => none
    | ']' :: _ => alone
    | '-' :: _ => alone
    | _ =>
      let (last, rest) ← readClassItem flags afterHyphen
      match first, last with
      | .char low, .char high =>
        if low ≤ high then some (CharSet.ofRanges [(low.toNat, high.toNat)], rest) else none
      | _, _ => none
  | [] => none
  | _ => alone

inductive SetOperation where
  | intersection
  | difference
  | symmetricDifference

def SetOperation.apply : SetOperation → CharSet → CharSet → CharSet
  | intersection, a, b => a.inter b
  | difference, a, b => a.diff b
  | symmetricDifference, a, b => a.symmDiff b

/-- What has been read of a class: the operands before the last operator joined, that operator, and
the items since it, with their number and greatest depth. -/
structure ClassState where
  left : Option (CharSet × SetOperation) := none
  items : CharSet := CharSet.empty
  count : Nat := 0
  depth : Nat := 0
  operators : Nat := 0

def ClassState.add (state : ClassState) (set : CharSet) (depth : Nat) : ClassState :=
  { state with
    items := state.items.union set, count := state.count + 1, depth := max state.depth depth }

/-- The operands so far joined into one set, case being folded before any operator applies. -/
def ClassState.joined (flags : Flags) (state : ClassState) : CharSet :=
  match state.left with
  | some (left, operation) => operation.apply (flags.foldCase left) (flags.foldCase state.items)
  | none => state.items

def ClassState.operator (flags : Flags) (state : ClassState) (operation : SetOperation) : ClassState :=
  { left := some (state.joined flags, operation), items := CharSet.empty, count := 0
    depth := state.depth + (if state.count ≥ 2 then 1 else 0), operators := state.operators + 1 }

def leadingHyphens (flags : Flags) : (fuel : Nat) → ClassState → List Char → ClassState × List Char
  | 0, state, text => (state, text)
  | fuel + 1, state, text =>
    match text with
    | '-' :: rest => leadingHyphens flags fuel (state.add (CharSet.single '-') 0) (skipExtended flags rest)
    | _ => (state, text)

mutual

def readClass (flags : Flags) : (fuel : Nat) → List Char → Option (CharSet × Nat × List Char)
  | 0, _ => none
  | fuel + 1, text =>
    let text := skipExtended flags text
    let (negated, text) := match text with
      | '^' :: rest => (true, skipExtended flags rest)
      | _ => (false, text)
    let (state, text) := leadingHyphens flags text.length {} text
    let (state, text) := match state.count, text with
      | 0, ']' :: rest => (state.add (CharSet.single ']') 0, skipExtended flags rest)
      | _, _ => (state, text)
    readClassBody flags fuel negated state text

def readClassBody (flags : Flags) : (fuel : Nat) → (negated : Bool) → ClassState → List Char →
    Option (CharSet × Nat × List Char)
  | 0, _, _, _ => none
  | fuel + 1, negated, state, text =>
    match skipExtended flags text with
    | [] => none
    | '[' :: rest =>
      match readAsciiClass flags rest with
      | some (set, rest) => readClassBody flags fuel negated (state.add set 0) rest
      | none =>
        match readClass flags fuel rest with
        | some (set, depth, rest) => readClassBody flags fuel negated (state.add set depth) rest
        | none => none
    | ']' :: rest =>
      let set := flags.complementIf negated (flags.foldCase (state.joined flags))
      let depth := 1 + state.operators + state.depth + (if state.count ≥ 2 then 1 else 0)
      some (set, depth, rest)
    | '&' :: '&' :: rest =>
      readClassBody flags fuel negated (state.operator flags .intersection) rest
    | '-' :: '-' :: rest =>
      readClassBody flags fuel negated (state.operator flags .difference) rest
    | '~' :: '~' :: rest =>
      readClassBody flags fuel negated (state.operator flags .symmetricDifference) rest
    | text =>
      match readClassRange flags text with
      | some (set, rest) => readClassBody flags fuel negated (state.add set 0) rest
      | none => none

end

def readCount (text : List Char) : Option (Nat × List Char) := do
  let text := Unicode.trimStart text
  let n ← Text.readDigits? (text.takeWhile Char.isDigit)
  if n < 4294967296 then some (n, Unicode.trimStart (text.dropWhile Char.isDigit)) else none

def readCounts (text : List Char) : Option ((Nat × Option Nat) × List Char) := do
  let (least, rest) ← readCount text
  match rest with
  | '\x7d' :: rest => some ((least, some least), rest)
  | ',' :: rest =>
    match Unicode.trimStart rest with
    | '\x7d' :: rest => some ((least, none), rest)
    | rest => do
      let (most, rest) ← readCount rest
      match rest with
      | '\x7d' :: rest => if least ≤ most then some ((least, some most), rest) else none
      | _ => none
  | _ => none

def isRepetition (c : Char) : Bool := c == '?' || c == '*' || c == '+' || c == '\x7b'

def readRepetition (c : Char) (rest : List Char) : Option ((Nat × Option Nat) × List Char) :=
  match c with
  | '?' => some ((0, some 1), rest)
  | '*' => some ((0, none), rest)
  | '+' => some ((1, none), rest)
  | _ => readCounts rest

def readFlags (flags : Flags) : (seen : List Char) → (negated : Bool) → List Char →
    Option (Flags × List Char × List Char)
  | _, _, [] => none
  | seen, negated, c :: rest =>
    if c == ':' || c == ')' then
      if seen.head? == some '-' then none else some (flags, seen, c :: rest)
    else if seen.contains c then none
    else
      let seen := c :: seen
      match c with
      | '-' => readFlags flags seen true rest
      | 'i' => readFlags { flags with ignoreCase := !negated } seen negated rest
      | 'm' => readFlags { flags with multiLine := !negated } seen negated rest
      | 's' => readFlags { flags with dotAll := !negated } seen negated rest
      | 'U' => readFlags { flags with swapGreed := !negated } seen negated rest
      | 'u' => readFlags { flags with unicode := !negated } seen negated rest
      | 'R' => readFlags { flags with crlf := !negated } seen negated rest
      | 'x' => readFlags { flags with extended := !negated } seen negated rest
      | _ => none

def readGroupName (text : List Char) : Option (String × List Char) :=
  match text.span (· != '>') with
  | (name@(first :: others), _ :: rest) =>
    let isFirst (c : Char) : Bool := c == '_' || Unicode.alphabeticChars.contains c
    let isOther (c : Char) : Bool :=
      isFirst c || c == '.' || c == '[' || c == ']'
        || ["Nd", "Nl", "No"].contains (Unicode.category c)
    if isFirst first && others.all isOther then some (String.ofList name, rest) else none
  | _ => none

def repeatLast? (items : List Item) (least : Nat) (most : Option Nat) : Option (List Item) :=
  match items with
  | item :: items =>
    if item.repeatable then some (⟨.times least most item.regex, 1 + item.depth, true⟩ :: items)
    else none
  | [] => none

def skipLazy (flags : Flags) (text : List Char) : List Char :=
  match skipExtended flags text with
  | '?' :: rest => rest
  | _ => text

/-- What the reader of a group has at a place: its flags, the names of groups so far, the
alternatives before the place and the items of the present one, each last first. -/
structure GroupState where
  flags : Flags
  names : List String
  alternatives : List Item := []
  items : List Item := []

def GroupState.push (state : GroupState) (item : Item) : GroupState :=
  { state with items := item :: state.items }

def GroupState.endAlternative (state : GroupState) : GroupState :=
  { state with
    alternatives := Item.sequence state.items.reverse :: state.alternatives, items := [] }

def GroupState.finish (state : GroupState) : Item :=
  Item.alternatives state.endAlternative.alternatives.reverse

def readSingle (flags : Flags) (text : List Char) : Option (Item × List Char) :=
  match text with
  | [] => none
  | '.' :: rest => flags.dot?.map fun regex => (⟨regex, 0, true⟩, rest)
  | '^' :: rest => some (⟨flags.caret, 0, true⟩, rest)
  | '$' :: rest => some (⟨flags.dollar, 0, true⟩, rest)
  | '\\' :: rest =>
    match readEscape flags rest with
    | some (.char c byte, rest) =>
      if byte && !flags.unicode && c.toNat ≥ 0x80 then none
      else some (⟨flags.literal c, 0, true⟩, rest)
    | some (.set set, rest) => (flags.charsOf? set).map fun regex => (⟨regex, 0, true⟩, rest)
    | some (.look test, rest) => some (⟨.look test, 0, true⟩, rest)
    | none => none
  | c :: rest => some (⟨flags.literal c, 0, true⟩, rest)

inductive GroupOpening where
  | setFlags (flags : Flags)
  | group (flags : Flags) (names : List String)

def readGroupOpening (flags : Flags) (names : List String) (text : List Char) :
    Option (GroupOpening × List Char) :=
  match skipExtended flags text with
  | '?' :: '=' :: _ => none
  | '?' :: '!' :: _ => none
  | '?' :: '<' :: '=' :: _ => none
  | '?' :: '<' :: '!' :: _ => none
  | '?' :: 'P' :: '<' :: rest => named rest
  | '?' :: '<' :: rest => named rest
  | '?' :: rest =>
    match readFlags flags [] false rest with
    | some (inner, seen, ')' :: rest) =>
      if seen.isEmpty then none else some (.setFlags inner, rest)
    | some (inner, _, _ :: rest) => some (.group inner names, rest)
    | _ => none
  | text => some (.group flags names, text)
where
  named (text : List Char) : Option (GroupOpening × List Char) :=
    match readGroupName text with
    | some (name, rest) =>
      if names.contains name then none else some (.group flags (name :: names), rest)
    | none => none

/-- The rest of a group, up to the end of the text or the closing parenthesis, which stays; with the
names of all groups so far. -/
def readGroup : (fuel : Nat) → GroupState → List Char → Option (Item × List String × List Char)
  | 0, _, _ => none
  | fuel + 1, state, text =>
    let flags := state.flags
    match skipExtended flags text with
    | [] => some (state.finish, state.names, [])
    | ')' :: rest => some (state.finish, state.names, ')' :: rest)
    | '(' :: rest =>
      match readGroupOpening flags state.names rest with
      | some (.setFlags flags, rest) =>
        readGroup fuel { state.push ⟨.empty, 0, false⟩ with flags } rest
      | some (.group inner names, rest) =>
        match readGroup fuel { flags := inner, names } rest with
        | some (item, names, ')' :: rest) =>
          readGroup fuel { state.push ⟨item.regex, 1 + item.depth, true⟩ with names } rest
        | _ => none
      | none => none
    | '|' :: rest => readGroup fuel state.endAlternative rest
    | '[' :: rest =>
      match readClass flags (text.length + 1) rest with
      | some (set, depth, rest) =>
        match flags.charsOf? set with
        | some regex => readGroup fuel (state.push ⟨regex, depth, true⟩) rest
        | none => none
      | none => none
    | c :: rest =>
      if isRepetition c then
        match readRepetition c rest with
        | some ((least, most), rest) =>
          match repeatLast? state.items least most with
          | some items => readGroup fuel { state with items } (skipLazy flags rest)
          | none => none
        | none => none
      else match readSingle flags (c :: rest) with
        | some (item, rest) => readGroup fuel (state.push item) rest
        | none => none

def parse? (text : String) : Option Regex :=
  match readGroup (text.length + 1) { flags := {}, names := [] } text.toList with
  | some (item, _, []) =>
    if item.depth ≤ nestLimit && item.regex.cost ≤ costLimit then some item.regex else none
  | _ => none

end LogQuery.Regex
