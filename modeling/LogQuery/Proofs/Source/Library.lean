import LogQuery.Proofs.Source.Catalog
import LogQuery.Proofs.Source.Category

/-! Libraries: what is listed can be asked for, and under the name of a source nothing else can.

Directories of rotated files are looked through once, the others for every question. On a disk that
does not change this makes no difference.
-/

set_option autoImplicit false

namespace LogQuery

/-! ### Several directories -/

namespace Catalog

variable {catalog later : Catalog} {category : String}

theorem isAscending_ofDirectory (disk : Disk) (recursion : Nat) (directory : String) :
    (ofDirectory disk recursion directory).IsAscending := isAscending_ofEntries _

theorem IsAscending.override (ascending : catalog.IsAscending) (later : Catalog) :
    (catalog.override later).IsAscending ∧
      catalog.override later =
        later.foldl (fun list (category, files) => putInOrder category files list) catalog := by
  induction later generalizing catalog with
  | nil => exact ⟨ascending, rfl⟩
  | cons first later ih =>
    obtain ⟨category, files⟩ := first
    have further := ih (ascending.update (fun _ => files) category)
    rw [List.foldl_cons, Catalog.override, List.foldl_cons]
    dsimp only
    rw [← ascending.update_eq fun _ => files]
    exact further

theorem ofDirectories_ordered (disk : Disk) (recursion : Nat) (directories : List String) :
    (ofDirectories disk recursion directories).IsAscending ∧
      ∀ category files, (ofDirectories disk recursion directories).files? category = some files ↔
        LastGives (fun directory => (ofDirectory disk recursion directory).files? category)
          directories files := by
  have overrides (category : String) (catalog : Catalog) (directory : String)
      (ascending : catalog.IsAscending) :
      (catalog.override (ofDirectory disk recursion directory)).IsAscending ∧
        (catalog.override (ofDirectory disk recursion directory)).files? category =
          ((ofDirectory disk recursion directory).files? category).or (catalog.files? category) := by
    obtain ⟨stays, same⟩ := ascending.override (ofDirectory disk recursion directory)
    refine ⟨stays, ?_⟩
    rw [same]
    exact lookup_foldl_putInOrder (isAscending_ofDirectory disk recursion directory).nodup
  have start : IsAscending [] := List.Pairwise.nil
  refine ⟨(foldl_overrides (overrides "") start directories).1, fun category files => ?_⟩
  refine ((foldl_overrides (overrides category) start directories).2 files).trans ?_
  simp

end Catalog

/-- Is there a directory of this name in a directory? One that a link leads to does not count. -/
def Disk.hasFolder (disk : Disk) (name directory : String) : Bool :=
  match disk.find directory with
  | .ok place => disk.entry? (place ++ [name]) == some .directory
  | .error _ => false

theorem Disk.mem_namesIn_of_entry? {disk : Disk} {place : Disk.Place} {name : String}
    {entry : Disk.Entry} (stands : disk.entry? (place ++ [name]) = some entry) :
    name ∈ disk.namesIn place := by
  unfold entry? at stands
  rw [if_neg (by simp), List.lookup_eq_some_iff] at stands
  obtain ⟨before, after, same, -⟩ := stands
  exact mem_namesIn.2 ⟨entry, same ▸ List.mem_append_right _ List.mem_cons_self⟩

def withFolders (disk : Disk) (homes : List (String × String)) (directory : String) :
    List (String × String) :=
  match disk.find directory with
  | .error _ => homes
  | .ok place =>
    (disk.namesIn place).foldl
      (fun homes name =>
        if disk.entry? (place ++ [name]) == some .directory then putInOrder name directory homes
        else homes)
      homes

theorem hourlyHomes_eq (disk : Disk) (directories : List String) :
    hourlyHomes disk directories = directories.foldl (withFolders disk) [] := rfl

section

variable {homes : List (String × String)} {category directory : String}

theorem lookup_foldl_folders (isFolder : String → Bool) (names : List String) :
    (names.foldl
      (fun homes name => if isFolder name then putInOrder name directory homes else homes)
      homes).lookup category =
      if category ∈ names ∧ isFolder category = true then some directory
      else homes.lookup category := by
  induction names generalizing homes with
  | nil => simp
  | cons name names ih =>
    rw [List.foldl_cons, ih]
    by_cases same : category = name
    · subst same
      cases folder : isFolder category <;> simp [lookup_putInOrder]
    · cases folder : isFolder name <;> simp [lookup_putInOrder, same]

theorem pairwise_foldl_folders (isFolder : String → Bool) (names : List String)
    (ordered : (homes.map (·.1)).Pairwise (· < ·)) :
    ((names.foldl
      (fun homes name => if isFolder name then putInOrder name directory homes else homes)
      homes).map (·.1)).Pairwise (· < ·) := by
  induction names generalizing homes with
  | nil => exact ordered
  | cons name names ih =>
    rw [List.foldl_cons]
    split
    · exact ih (pairwise_putInOrder ordered)
    · exact ih ordered

theorem withFolders_ordered (disk : Disk) (category directory : String)
    (ordered : (homes.map (·.1)).Pairwise (· < ·)) :
    ((withFolders disk homes directory).map (·.1)).Pairwise (· < ·) ∧
      (withFolders disk homes directory).lookup category =
        (Option.guard (disk.hasFolder category) directory).or (homes.lookup category) := by
  rw [withFolders, Option.guard, Disk.hasFolder]
  cases disk.find directory with
  | error failure => exact ⟨ordered, rfl⟩
  | ok place =>
    refine ⟨pairwise_foldl_folders _ _ ordered, ?_⟩
    rw [lookup_foldl_folders fun name => disk.entry? (place ++ [name]) == some .directory]
    dsimp only
    by_cases folder : disk.entry? (place ++ [category]) = some .directory
    · simp [folder, Disk.mem_namesIn_of_entry? folder]
    · simp [folder]

theorem hourlyHomes_ordered (disk : Disk) (directories : List String) :
    ((hourlyHomes disk directories).map (·.1)).Pairwise (· < ·) ∧
      ∀ category directory, (hourlyHomes disk directories).lookup category = some directory ↔
        LastGives (Option.guard (disk.hasFolder category)) directories directory := by
  have overrides (category : String) (homes : List (String × String)) (directory : String)
      (ordered : (homes.map (·.1)).Pairwise (· < ·)) :=
    withFolders_ordered disk category directory ordered
  have start : (([] : List (String × String)).map (·.1)).Pairwise (· < ·) := .nil
  rw [hourlyHomes_eq]
  refine ⟨(foldl_overrides (overrides "") start directories).1, fun category directory => ?_⟩
  refine ((foldl_overrides (overrides category) start directories).2 directory).trans ?_
  simp

end

namespace Library

variable {library : Library} {disk seen : Disk}

/-! ### Questions -/

inductive Asks (library : Library) (disk : Disk) : Library → Prop where
  | refl : Asks library disk library
  | listing {earlier : Library} (filter : Option String) :
    Asks library disk earlier → Asks library disk (earlier.listing disk filter).2
  | source? {earlier : Library} (name : String) :
    Asks library disk earlier → Asks library disk (earlier.source? disk name).2
  | resolve {earlier : Library} (text : String) :
    Asks library disk earlier → Asks library disk (earlier.resolve disk text).2

/-- What is kept for later is what would be found again. -/
theorem sources_asked (library : Library) (disk : Disk) (aboutRotated : Bool) :
    (library.asked disk aboutRotated).sources disk = library.sources disk := by
  cases aboutRotated <;> rfl

theorem Asks.sources {later : Library} (asks : library.Asks disk later) :
    later.sources disk = library.sources disk := by
  induction asks with
  | refl => rfl
  | listing filter _ ih => exact (sources_asked ..).trans ih
  | source? name _ ih => exact (sources_asked ..).trans ih
  | resolve text _ ih => exact (sources_asked ..).trans ih

theorem names_eq (library : Library) (disk : Disk) :
    library.names = (library.sources disk).map (·.name) := by
  simp only [names, sources, List.map_append]
  rfl

/-! ### What there is -/

/-- What a library has for a category of a source. Rotated files are those of the last directory
that had the category when it was looked through; hourly files come from the last directory that
has it. -/
inductive Has (library : Library) (seen disk : Disk) : (source category : String) → Chain → Prop where
  | rotated {category : String} {files : List RotatedFile} :
    LastGives
      (fun directory =>
        (Catalog.ofDirectory seen library.shelf.recursion directory).files? category)
      library.shelf.directories files →
    Has library seen disk rotatedName category (.rotated files)
  | hourly {category directory : String} :
    LastGives (Option.guard (disk.hasFolder category)) library.hourlyDirectories directory →
    Has library seen disk hourlyName category (.hourly directory category)
  | input : Has library seen disk inputName inputCategory (.direct library.input)

section

variable {category : String} {chain : Chain}

theorem Has.mem_names {source : String} (has : library.Has seen disk source category chain) :
    source ∈ library.names := by
  cases has <;> simp [names]

theorem has_rotated_iff : library.Has seen disk rotatedName category chain ↔
    ∃ files, LastGives
      (fun directory => (Catalog.ofDirectory seen library.shelf.recursion directory).files? category)
      library.shelf.directories files ∧ .rotated files = chain := by
  refine ⟨fun has => ?_, fun ⟨files, given, same⟩ => same ▸ .rotated given⟩
  generalize source : rotatedName = name at has
  cases has with
  | rotated given => exact ⟨_, given, rfl⟩
  | hourly => exact absurd source (by decide)
  | input => exact absurd source (by decide)

theorem has_hourly_iff : library.Has seen disk hourlyName category chain ↔
    ∃ directory, LastGives (Option.guard (disk.hasFolder category)) library.hourlyDirectories
      directory ∧ .hourly directory category = chain := by
  refine ⟨fun has => ?_, fun ⟨directory, given, same⟩ => same ▸ .hourly given⟩
  generalize source : hourlyName = name at has
  cases has with
  | rotated => exact absurd source (by decide)
  | hourly given => exact ⟨_, given, rfl⟩
  | input => exact absurd source (by decide)

theorem has_input_iff : library.Has seen disk inputName category chain ↔
    category = inputCategory ∧ .direct library.input = chain := by
  refine ⟨fun has => ?_, fun ⟨sameCategory, same⟩ => sameCategory ▸ same ▸ .input⟩
  generalize source : inputName = name at has
  cases has with
  | rotated => exact absurd source (by decide)
  | hourly => exact absurd source (by decide)
  | input => exact ⟨rfl, rfl⟩

end

section

variable (plain : library.others = [])

include plain

theorem sources_plain (disk : Disk) : library.sources disk =
    [.ofCatalog rotatedName (library.shelf.catalog disk),
      .ofHomes hourlyName (hourlyHomes disk library.hourlyDirectories),
      .ofStreams inputName [(inputCategory, library.input)]] := by
  rw [sources, plain]
  rfl

theorem names_sources (disk : Disk) :
    (library.sources disk).map (·.name) = [rotatedName, hourlyName, inputName] := by
  rw [sources_plain plain]
  rfl

theorem apart_sources (disk : Disk) : ((library.sources disk).map (·.name)).Nodup := by
  rw [names_sources plain]
  decide

theorem single_sources (disk : Disk) :
    ∀ source ∈ library.sources disk, '/' ∉ source.name.toList := by
  have single : ∀ name ∈ (library.sources disk).map (·.name), '/' ∉ name.toList := by
    rw [names_sources plain]
    decide +kernel
  exact fun source among => single source.name (List.mem_map_of_mem among)

variable (looked : library.shelf.catalog disk =
  .ofDirectories seen library.shelf.recursion library.shelf.directories)

include looked

theorem own_sources : ∀ source ∈ library.sources disk, source.categories.Nodup := by
  rw [sources_plain plain, looked, List.forall_mem_cons, List.forall_mem_cons,
    List.forall_mem_singleton]
  refine ⟨(Catalog.ofDirectories_ordered ..).1.nodup, ?_, List.nodup_singleton _⟩
  exact (hourlyHomes_ordered disk library.hourlyDirectories).1.imp String.ne_of_lt

theorem chain?_iff : ∀ source ∈ library.sources disk, ∀ category chain,
    source.chain? category = some chain ↔ library.Has seen disk source.name category chain := by
  rw [sources_plain plain, looked, List.forall_mem_cons, List.forall_mem_cons,
    List.forall_mem_singleton]
  refine ⟨fun category chain => ?_, fun category chain => ?_, fun category chain => ?_⟩
  · refine Iff.trans ?_ has_rotated_iff.symm
    rw [Source.ofCatalog, Option.map_eq_some_iff]
    simp only [(Catalog.ofDirectories_ordered ..).2]
  · refine Iff.trans ?_ has_hourly_iff.symm
    rw [Source.ofHomes, Option.map_eq_some_iff]
    simp only [(hourlyHomes_ordered ..).2]
  · refine Iff.trans ?_ has_input_iff.symm
    rw [Source.ofStreams, Option.map_eq_some_iff]
    by_cases same : category = inputCategory
    · simp [same]
    · simp [same, List.lookup_cons, beq_eq_false_iff_ne.2 same]

theorem categories_iff : ∀ source ∈ library.sources disk, ∀ category,
    category ∈ source.categories ↔
      ∃ chain, library.Has seen disk source.name category chain := by
  intro source among category
  simp only [← chain?_iff plain looked source among, ← Option.isSome_iff_exists]
  revert source
  rw [sources_plain plain, List.forall_mem_cons, List.forall_mem_cons, List.forall_mem_singleton,
    Source.ofCatalog, Source.ofHomes, Source.ofStreams]
  simp only [Option.isSome_map, Catalog.files?, isSome_lookup_iff, Catalog.categories, and_self]

theorem mem_listing_iff {text : String} : text ∈ Source.listing (library.sources disk) none ↔
    ∃ source category chain,
      library.Has seen disk source category chain ∧ text = source ++ "/" ++ category := by
  rw [Source.mem_listing]
  constructor
  · rintro ⟨source, among, category, listed, rfl⟩
    obtain ⟨chain, has⟩ := (categories_iff plain looked source among category).1 listed
    exact ⟨source.name, category, chain, has, rfl⟩
  · rintro ⟨name, category, chain, has, rfl⟩
    obtain ⟨source, among, rfl⟩ := List.mem_map.1 (names_eq library disk ▸ has.mem_names)
    exact ⟨source, among, category,
      (categories_iff plain looked source among category).2 ⟨chain, has⟩, rfl⟩

/-- A text that is listed is read back as the source and the category that it was made of. -/
theorem mem_listing_qualify {name category : String} (known : name ∈ library.names) :
    name ++ "/" ++ category ∈ Source.listing (library.sources disk) none ↔
      ∃ chain, library.Has seen disk name category chain := by
  rw [mem_listing_iff plain looked]
  constructor
  · rintro ⟨other, categoryOther, chain, has, same⟩
    have single (name : String) (known : name ∈ library.names) : '/' ∉ name.toList := by
      obtain ⟨source, among, rfl⟩ := List.mem_map.1 (names_eq library disk ▸ known)
      exact single_sources plain disk source among
    obtain ⟨rfl, rfl⟩ := (slashed_inj (single name known) (single other has.mem_names)).1 same
    exact ⟨chain, has⟩
  · exact fun ⟨chain, has⟩ => ⟨name, category, chain, has, rfl⟩

theorem resolve_iff {name category : String} (known : name ∈ library.names)
    (nonempty : category ≠ "") :
    let text := name ++ "/" ++ category
    let answer := Source.resolve (library.sources disk) text
    (∀ chain, answer = .ok chain ↔ library.Has seen disk name category chain) ∧
      ((∀ chain, ¬ library.Has seen disk name category chain) →
        answer = .error (.categoryNotFound text)) := by
  obtain ⟨source, among, rfl⟩ := List.mem_map.1 (names_eq library disk ▸ known)
  intro text answer
  have answered : answer = (source.chain? category).elim (.error (.categoryNotFound text)) .ok := by
    have resolved := Source.resolve_qualify (apart_sources plain disk) among
      (single_sources plain disk source among) category
    rwa [if_neg nonempty] at resolved
  simp only [← chain?_iff plain looked source among, answered]
  cases source.chain? category <;> simp

/-- What is listed is what there is, each name once and in order, or what of it has a text in it.
With the name of a source in front, what is listed can be asked for, and gives the chain of that
source; anything else gives nothing. Neither depends on what was asked before. -/
theorem listing_resolves {first second : Library} (firstAsks : library.Asks disk first)
    (secondAsks : library.Asks disk second) :
    let names := (first.listing disk none).1
    names.Pairwise (· < ·) ∧
    (∀ text, text ∈ names ↔ ∃ source category chain,
      library.Has seen disk source category chain ∧ text = source ++ "/" ++ category) ∧
    (∀ part, let filtered := (first.listing disk (some part)).1
      filtered.Sublist names ∧
      ∀ name, name ∈ filtered ↔ name ∈ names ∧ part.toList <:+: name.toList) ∧
    ∀ source ∈ library.names, ∀ category, category ≠ "" →
      let text := source ++ "/" ++ category
      let answer := (second.resolve disk text).1
      (text ∈ names ↔ ∃ chain, answer = .ok chain) ∧
      (∀ chain, answer = .ok chain ↔ library.Has seen disk source category chain) ∧
      (text ∉ names → answer = .error (.categoryNotFound text)) := by
  intro names
  have listed (filter : Option String) : (first.listing disk filter).1 =
      Source.listing (library.sources disk) filter :=
    congrArg (Source.listing · filter) firstAsks.sources
  have asked (text : String) : (second.resolve disk text).1 =
      Source.resolve (library.sources disk) text :=
    congrArg (Source.resolve · text) secondAsks.sources
  -- questions leave the sources as they are, so one library stands for both
  simp only [names, listed, asked]
  refine ⟨?_, fun text => mem_listing_iff plain looked, fun part => ?_,
    fun source known category nonempty => ?_⟩
  · exact Source.pairwise_listing (single_sources plain disk) (apart_sources plain disk)
      (own_sources plain looked)
  · rw [Source.listing_some]
    refine ⟨List.filter_sublist, fun name => ?_⟩
    rw [List.mem_filter, Source.occursIn_iff]
  · have member : source ++ "/" ++ category ∈ Source.listing (library.sources disk) none ↔
        ∃ chain, library.Has seen disk source category chain :=
      mem_listing_qualify plain looked known
    obtain ⟨answers, missing⟩ := resolve_iff plain looked known nonempty
    refine ⟨?_, answers, fun absent => missing fun chain has => absent (member.2 ⟨chain, has⟩)⟩
    rw [member]
    simp only [answers]

end

def nestedLibrary : Library where
  shelf := { directories := ["logs"], recursion := 1 }
  hourlyDirectories := ["logs"]

theorem listing_resolves_nested :
    let disk := Catalog.nested
    let (names, second) := nestedLibrary.listing disk none
    nestedLibrary.others = [] ∧
      nestedLibrary.shelf.catalog disk = .ofDirectories disk 1 ["logs"] ∧
      nestedLibrary.Asks disk nestedLibrary ∧ nestedLibrary.Asks disk second ∧
      ("generic/nginx/access" ∈ names ∧ ∃ files,
        (second.resolve disk "generic/nginx/access").1 = .ok (.rotated files) ∧
        ⟨"logs/nginx/access", none, .plain⟩ ∈ files) ∧
      (second.resolve disk "scribe/nginx").1 = .ok (.hourly "logs" "nginx") ∧
      "scribe/kern" ∉ names ∧
      (second.resolve disk "scribe/kern").1 = .error (.categoryNotFound "scribe/kern") := by
  intro disk
  have asks : nestedLibrary.Asks disk (nestedLibrary.listing disk none).2 := .listing none .refl
  have looked : nestedLibrary.shelf.catalog disk =
      .ofDirectories disk nestedLibrary.shelf.recursion nestedLibrary.shelf.directories := rfl
  obtain ⟨-, listed, -, answers⟩ := listing_resolves rfl looked .refl asks
  have found : disk.find "logs" = .ok ["logs"] := by decide +kernel
  have isDirectory : disk.entry? ["logs"] = some .directory := by decide +kernel
  have below : (Catalog.ofDirectory disk 1 "logs").Lists "nginx/access"
      ⟨"logs/nginx/access", none, .plain⟩ :=
    (Catalog.lists_ofDirectory Catalog.isTree_nested found isDirectory).2
      ⟨["nginx"], "access", ⟨"access", none, .plain⟩,
        ⟨⟨[], by decide +kernel⟩, by decide, by decide +kernel⟩, by decide +kernel,
        by decide +kernel⟩
  obtain ⟨files, held, member⟩ := below
  have rotated : nestedLibrary.Has disk disk rotatedName "nginx/access" (.rotated files) :=
    .rotated ⟨[], "logs", [], rfl, held, by simp⟩
  have hourly : nestedLibrary.Has disk disk hourlyName "nginx" (.hourly "logs" "nginx") :=
    .hourly ⟨[], "logs", [], rfl, by decide +kernel, by simp⟩
  have noFolder : ∀ chain, ¬ nestedLibrary.Has disk disk hourlyName "kern" chain := by
    intro chain has
    obtain ⟨directory, ⟨before, giver, after, same, gives, -⟩, -⟩ := has_hourly_iff.1 has
    have only : giver ∈ nestedLibrary.hourlyDirectories := by simp [same]
    rw [List.mem_singleton.1 only] at gives
    have nothing : Option.guard (disk.hasFolder "kern") "logs" = none := by decide +kernel
    rw [nothing] at gives
    cases gives
  obtain ⟨-, ofRotated, -⟩ := answers rotatedName (by decide) "nginx/access" (by decide)
  obtain ⟨-, ofHourly, -⟩ := answers hourlyName (by decide) "nginx" (by decide)
  obtain ⟨inNames, ofKern, missing⟩ := answers hourlyName (by decide) "kern" (by decide)
  have absent : "scribe/kern" ∉ (nestedLibrary.listing disk none).1 := fun present => by
    obtain ⟨chain, answered⟩ := inNames.1 present
    exact noFolder chain ((ofKern chain).1 answered)
  exact ⟨rfl, rfl, .refl, asks,
    ⟨(listed _).2 ⟨_, _, _, rotated, rfl⟩, files, (ofRotated _).2 rotated, member⟩,
    (ofHourly _).2 hourly, absent, missing absent⟩

end Library

end LogQuery
