import LogQuery.Configuration
import LogQuery.Proofs.Overriding
import LogQuery.Proofs.Text.Split

/-! Configurations laid one over the other: each key has the value of the last text that sets it.

A text that is not accepted changes nothing, and which texts are accepted does not depend on what
they are laid over.
-/

set_option autoImplicit false

namespace LogQuery.Configuration

/-! ### What a document sets -/

inductive NamesDirectories : Toml.Value → List String → Prop where
  | listed (directories : List String) :
    NamesDirectories (.array (directories.map .string)) directories
  | joined {pieces : List String} : pieces ≠ [] → (∀ piece ∈ pieces, ':' ∉ piece.toList) →
    NamesDirectories (.string (":".intercalate pieces)) (pieces.filter (· ≠ ""))

inductive IsDepth : Toml.Value → Nat → Prop where
  | intro (depth : Nat) : IsDepth (.integer depth) depth

inductive IsSection (keys : List String) : Toml.Value → Toml.Table → Prop where
  | table {kind : Toml.TableKind} {entries : Toml.Table} : (∀ entry ∈ entries, entry.1 ∈ keys) →
    IsSection keys (.table kind entries) entries
  | array {items : List Toml.Value} (further : List Toml.Value) : items.length = keys.length →
    IsSection keys (.array (items ++ further)) (keys.zip items)

inductive Tells {α : Type} (table : Toml.Table) (key : String) (means : Toml.Value → α → Prop) :
    Option α → Prop where
  | nothing : table.lookup key = none → Tells table key means none
  | something {value : Toml.Value} {meant : α} : table.lookup key = some value →
    means value meant → Tells table key means (some meant)

/-- A document that sets what a layer sets, and holds nothing that is not known. -/
inductive Reads (document : Toml.Table) (layer : Layer) : Prop where
  | intro {hourly? rotated? : Option Toml.Table} :
    (∀ entry ∈ document, entry.1 ∈ ["scribe", "generic"]) →
    Tells document "scribe" (IsSection ["dirs"]) hourly? →
    Tells document "generic" (IsSection ["dirs", "recursion"]) rotated? →
    Tells (hourly?.getD []) "dirs" NamesDirectories layer.hourlyDirectories? →
    Tells (rotated?.getD []) "dirs" NamesDirectories layer.rotatedDirectories? →
    Tells (rotated?.getD []) "recursion" IsDepth layer.recursion? →
    Reads document layer

namespace Layer

section

variable {value : Toml.Value} {table : Toml.Table} {key : String}

theorem mapM_string_iff {items : List Toml.Value} {directories : List String} :
    items.mapM (fun
      | .string directory => some directory
      | _ => none) = some directories ↔ items = directories.map .string := by
  induction items generalizing directories with
  | nil => cases directories <;> simp
  | cons item items ih =>
    rw [List.mapM_cons]
    cases item <;> cases directories <;> simp [ih, Option.bind_eq_some_iff, and_comm]

theorem directories?_iff {directories : List String} :
    directories? value = some directories ↔ NamesDirectories value directories := by
  have colon : ":".toList = [':'] := by decide
  have cut {pieces : List String} (nonempty : pieces ≠ [])
      (free : ∀ piece ∈ pieces, ':' ∉ piece.toList) :
      directories? (.string (":".intercalate pieces)) = some (pieces.filter (· ≠ "")) := by
    rw [directories?, Text.splitAt_intercalate colon nonempty free, List.filter_map, List.map_map]
    simp only [Function.comp_def, String.ofList_toList, List.map_id']
    congr 2
    funext piece
    rw [Bool.eq_iff_iff]
    simp
  constructor
  · intro read
    cases value with
    | array items =>
      rw [mapM_string_iff.1 read]
      exact .listed directories
    | string joined =>
      obtain ⟨pieces, nonempty, free, rfl⟩ := Text.exists_intercalate colon joined
      cases (cut nonempty free).symm.trans read
      exact .joined nonempty free
    | _ => cases read
  · intro names
    cases names with
    | listed => exact mapM_string_iff.2 rfl
    | joined nonempty free => exact cut nonempty free

theorem depth?_iff {depth : Nat} : depth? value = some depth ↔ IsDepth value depth := by
  constructor
  · intro read
    cases value with
    | integer value =>
      rw [depth?] at read
      split at read
      · cases read
      · next nonnegative =>
        obtain ⟨depth, rfl⟩ := Int.eq_ofNat_of_zero_le (Int.not_lt.1 nonnegative)
        cases read
        exact .intro depth
    | _ => cases read
  · rintro ⟨⟩
    simp [depth?]

theorem settings?_iff {keys : List String} :
    settings? keys value = some table ↔ IsSection keys value table := by
  have cut {items : List Toml.Value} (further : List Toml.Value)
      (enough : items.length = keys.length) :
      settings? keys (.array (items ++ further)) = some (keys.zip items) := by
    have parts : (keys ++ []).zip (items ++ further) = keys.zip items ++ [].zip further :=
      List.zip_append enough.symm
    rw [List.append_nil, List.zip_nil_left, List.append_nil] at parts
    rw [settings?, if_pos (by simp [enough]), parts]
  constructor
  · intro read
    cases value with
    | table kind entries =>
      rw [settings?] at read
      split at read
      · next known =>
        cases read
        exact .table (by simpa using known)
      · cases read
    | array items =>
      have enough : keys.length ≤ items.length := by
        rw [settings?] at read
        split at read
        · assumption
        · cases read
      have whole := List.take_append_drop keys.length items
      have taken := List.length_take_of_le enough
      rw [← whole] at read ⊢
      cases (cut _ taken).symm.trans read
      exact .array _ taken
    | _ => cases read
  · intro isSection
    cases isSection with
    | table known => exact if_pos (by simpa using known)
    | array further enough => exact cut further enough

theorem valueOf?_iff {α : Type} {read? : Toml.Value → Option α} {means : Toml.Value → α → Prop}
    (reads : ∀ {value meant}, read? value = some meant ↔ means value meant) {told? : Option α} :
    valueOf? table key read? = some told? ↔ Tells table key means told? := by
  rw [valueOf?]
  constructor
  · intro read
    split at read
    · next absent =>
      cases read
      exact .nothing absent
    · next value present =>
      obtain ⟨meant, isMeant, rfl⟩ := Option.map_eq_some_iff.1 read
      exact .something present (reads.1 isMeant)
  · intro tells
    cases tells with
    | nothing absent => rw [absent]
    | something present isMeant =>
      rw [present]
      exact Option.map_eq_some_iff.2 ⟨_, reads.2 isMeant, rfl⟩

theorem ofTable?_iff {document : Toml.Table} {layer : Layer} :
    ofTable? document = some layer ↔ Reads document layer := by
  simp only [ofTable?, Option.bind_eq_bind, Option.pure_def, Option.bind_eq_some_iff,
    valueOf?_iff settings?_iff, valueOf?_iff directories?_iff, valueOf?_iff depth?_iff,
    settings?_iff, Option.some.injEq]
  constructor
  · rintro ⟨_, known, hourly?, hourly, rotated?, rotated, _, first, _, second, _, third, rfl⟩
    cases known with
    | table known => exact .intro known hourly rotated first second third
  · rintro ⟨known, hourly, rotated, first, second, third⟩
    exact ⟨_, .table known, _, hourly, _, rotated, _, first, _, second, _, third, rfl⟩

theorem parse?_iff {text : String} {layer : Layer} : parse? text = some layer ↔
    ∃ document, Toml.Table.parse? text = some document ∧ Reads document layer := by
  rw [parse?, Option.bind_eq_bind, Option.bind_eq_some_iff]
  simp only [ofTable?_iff]

example : parse? "[scribe]\n[generic]\ndirs = ':/srv/log::/opt/log'" =
    some { rotatedDirectories? := some ["/srv/log", "/opt/log"] } := by decide +kernel

example : parse? "[scribe]\ndirs = '/srv'\n[generic]\nrecursion = -1" = none := by decide +kernel

end

end Layer

/-! ### Texts in order -/

def afterText (configuration : Configuration) (text : String) : Configuration :=
  (configuration.mergeText text).1

/-- The value of a key behind some texts: that of the last of those accepted that sets the key. If
there is none, it stays what it was. -/
def IsLastSet {α : Type} (set? : Layer → Option α) (texts : List String) (before after : α) : Prop :=
  LastGives (fun text => (Layer.parse? text).bind set?) texts after ∨
    (∀ text ∈ texts, (Layer.parse? text).bind set? = none) ∧ after = before

section

variable {configuration : Configuration} {text : String}

theorem mergeText_accepted {layer : Layer} (parsed : Layer.parse? text = some layer) :
    configuration.mergeText text = (configuration.apply layer, true) := by
  rw [mergeText, parsed]

theorem mergeText_refused (refused : Layer.parse? text = none) :
    configuration.mergeText text = (configuration, false) := by
  rw [mergeText, refused]

theorem parse?_of_refused (refused : (configuration.mergeText text).2 = false) :
    Layer.parse? text = none := by
  cases parsed : Layer.parse? text with
  | none => rfl
  | some layer => rw [mergeText_accepted parsed] at refused; cases refused

theorem applyText?_eq :
    configuration.applyText? text = (Layer.parse? text).map configuration.apply := by
  rw [applyText?]
  cases parsed : Layer.parse? text with
  | none => rw [mergeText_refused parsed]; rfl
  | some layer => rw [mergeText_accepted parsed]; rfl

end

theorem isLastSet_foldl {α : Type} {set? : Layer → Option α} {held : Configuration → α}
    (sets : ∀ configuration layer,
      held (configuration.apply layer) = (set? layer).getD (held configuration))
    (start : Configuration) (texts : List String) :
    IsLastSet set? texts (held start) (held (texts.foldl afterText start)) := by
  have overrides (configuration : Configuration) (text : String) (_ : True) :
      True ∧ some (held (configuration.afterText text)) =
        ((Layer.parse? text).bind set?).or (some (held configuration)) := by
    rw [afterText]
    cases parsed : Layer.parse? text with
    | none => rw [mergeText_refused parsed]; exact ⟨trivial, rfl⟩
    | some layer =>
      rw [mergeText_accepted parsed, sets, Option.bind_some]
      cases set? layer <;> exact ⟨trivial, rfl⟩
  -- every configuration has a value for the key, so that it holds what was given last
  obtain ⟨-, holds⟩ := @foldl_overrides _ _ _ _ (fun _ => True)
    (fun configuration => some (held configuration)) _ overrides start trivial texts
  refine ((holds (held (texts.foldl afterText start))).1 rfl).imp_right ?_
  exact fun ⟨silent, same⟩ => ⟨silent, (Option.some.inj same).symm⟩

/-! ### Files in order -/

/-- What is wrong with a file, whatever it is laid over. One that is not there is not wrong. -/
inductive Fails (disk : Disk) (path : String) : ConfigurationError → Prop where
  | unreadable {cause : Failure} : disk.readText path = .error cause → cause.kind ≠ .notFound →
    Fails disk path (.unreadable path cause)
  | malformed {text : String} : disk.readText path = .ok text → Layer.parse? text = none →
    Fails disk path (.malformed path)

def textsOf (disk : Disk) (paths : List String) : List String :=
  paths.filterMap fun path => (disk.readText path).toOption

section

variable {disk : Disk} {path : String}

theorem Fails.applyFile {error : ConfigurationError} (fails : Fails disk path error)
    (configuration : Configuration) : configuration.applyFile disk path = .error error := by
  rw [Configuration.applyFile]
  cases fails with
  | unreadable read there =>
    rw [read]
    exact if_neg (mt beq_iff_eq.1 there)
  | malformed read refused =>
    rw [read]
    dsimp only
    rw [applyText?_eq, refused]
    rfl

theorem applyFile_sound (sound : ∀ error, ¬ Fails disk path error) (configuration : Configuration) :
    configuration.applyFile disk path =
      .ok ((textsOf disk [path]).foldl afterText configuration) := by
  cases read : disk.readText path with
  | ok text =>
    cases parsed : Layer.parse? text with
    | none => exact absurd (.malformed read parsed) (sound _)
    | some layer =>
      simp [applyFile, textsOf, read, Except.toOption, afterText, applyText?_eq,
        mergeText_accepted parsed, parsed]
  | error cause =>
    by_cases missing : cause.kind = .notFound
    · simp [applyFile, textsOf, read, missing, Except.toOption]
    · exact absurd (.unreadable read missing) (sound _)

theorem exists_first_cons {α : Type} {passes stops : α → Prop} {first : α} {items : List α} :
    (∃ before item after, first :: items = before ++ item :: after ∧
      (∀ earlier ∈ before, passes earlier) ∧ stops item) ↔
      stops first ∨ passes first ∧ ∃ before item after, items = before ++ item :: after ∧
        (∀ earlier ∈ before, passes earlier) ∧ stops item := by
  constructor
  · rintro ⟨before, item, after, same, passed, stopped⟩
    cases before with
    | nil =>
      cases same
      exact .inl stopped
    | cons earlier before =>
      cases same
      obtain ⟨passesFirst, passed⟩ := List.forall_mem_cons.1 passed
      exact .inr ⟨passesFirst, before, item, after, rfl, passed, stopped⟩
  · rintro (stopped | ⟨passesFirst, before, item, after, rfl, passed, stopped⟩)
    · exact ⟨[], first, items, rfl, fun _ member => absurd member List.not_mem_nil, stopped⟩
    · exact ⟨first :: before, item, after, rfl, List.forall_mem_cons.2 ⟨passesFirst, passed⟩,
        stopped⟩

/-- Files are laid one over the other as far as the first that is wrong. -/
theorem foldlM_applyFile (disk : Disk) (paths : List String) (start : Configuration) :
    let loaded := paths.foldlM (fun configuration path => configuration.applyFile disk path) start
    (∀ final, loaded = .ok final ↔
      (∀ path ∈ paths, ∀ error, ¬ Fails disk path error) ∧
        final = (textsOf disk paths).foldl afterText start) ∧
    ∀ error, loaded = .error error ↔
      ∃ before path after, paths = before ++ path :: after ∧
        (∀ earlier ∈ before, ∀ error, ¬ Fails disk earlier error) ∧ Fails disk path error := by
  induction paths generalizing start with
  | nil => simp [textsOf, pure, Except.pure, eq_comm]
  | cons path paths ih =>
    dsimp only
    rw [List.foldlM_cons]
    by_cases sound : ∀ error, ¬ Fails disk path error
    · -- the first file is laid over, or not there; what fails is further on
      obtain ⟨ok, error⟩ := ih ((textsOf disk [path]).foldl afterText start)
      have texts : textsOf disk (path :: paths) = textsOf disk [path] ++ textsOf disk paths :=
        List.filterMap_append (l := [path])
      rw [applyFile_sound sound, texts, List.foldl_append]
      refine ⟨fun final => ?_, fun failure => ?_⟩
      · rw [List.forall_mem_cons, and_iff_right sound]
        exact ok final
      · rw [exists_first_cons, or_iff_right (sound failure), and_iff_right sound]
        exact error failure
    · -- a file fails in one way only, whatever it would be laid over
      simp only [not_forall, not_not] at sound
      obtain ⟨first, fails⟩ := sound
      rw [fails.applyFile]
      refine ⟨fun final => ⟨fun stopped => ?_, fun ⟨sound, _⟩ => ?_⟩, fun failure => ?_⟩
      · cases stopped
      · exact absurd fails (sound path List.mem_cons_self first)
      · rw [exists_first_cons, or_iff_left fun ⟨sound, _⟩ => sound first fails]
        refine ⟨fun stopped => ?_, fun other => ?_⟩
        · cases stopped
          exact fails
        · exact (fails.applyFile start).symm.trans (other.applyFile start)

/-- The values of the keys behind any texts are those last set, each on its own. A text is accepted
as a whole, if it is a document in which nothing is unknown and nothing has another type, and not at
all otherwise. Loading lays the files that are there one over the other, and stops at the first that
cannot be read or is not accepted. -/
theorem layers_override :
    (∀ texts : List String,
      let laid := texts.foldl afterText {}
      IsLastSet (·.hourlyDirectories?) texts ["/mnt/scribe", "/var/log/scribe"]
        laid.hourlyDirectories ∧
      IsLastSet (·.rotatedDirectories?) texts ["/var/log"] laid.rotatedDirectories ∧
      IsLastSet (·.recursion?) texts 1 laid.recursion) ∧
    (∀ text layer, Layer.parse? text = some layer ↔
      ∃ document, Toml.Table.parse? text = some document ∧ Reads document layer) ∧
    (∀ (configuration : Configuration) (text : String),
      ((configuration.mergeText text).2 = false ↔ Layer.parse? text = none) ∧
      (configuration.applyText? text = none ↔ Layer.parse? text = none) ∧
      ((configuration.mergeText text).2 = false → configuration.afterText text = configuration)) ∧
    ∀ (disk : Disk) (paths : List String),
      (∀ final, load disk paths = .ok final ↔
        (∀ path ∈ paths, ∀ error, ¬ Fails disk path error) ∧
          final = (textsOf disk paths).foldl afterText {}) ∧
      ∀ error, load disk paths = .error error ↔
        ∃ before path after, paths = before ++ path :: after ∧
          (∀ earlier ∈ before, ∀ error, ¬ Fails disk earlier error) ∧ Fails disk path error := by
  refine ⟨fun texts => ⟨?_, ?_, ?_⟩, fun text layer => Layer.parse?_iff,
    fun configuration text => ⟨⟨parse?_of_refused, fun refused => ?_⟩, ?_, fun refused => ?_⟩,
    fun disk paths => foldlM_applyFile disk paths {}⟩
  · exact isLastSet_foldl (fun _ _ => rfl) {} texts
  · exact isLastSet_foldl (fun _ _ => rfl) {} texts
  · exact isLastSet_foldl (fun _ _ => rfl) {} texts
  · rw [mergeText_refused refused]
  · rw [applyText?_eq, Option.map_eq_none_iff]
  · rw [afterText, mergeText_refused (parse?_of_refused refused)]

end

end LogQuery.Configuration
