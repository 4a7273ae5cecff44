import LogQuery.Proofs.Files.Walk
import LogQuery.Proofs.Overriding
import LogQuery.Proofs.Source.FileName
import LogQuery.Source.Catalog

/-! Catalogs hold what was found, each file once and each category in order.

A catalog is told by the files of each category. These are the files that were given with the
category, and their order does not depend on the order in which they were given.
-/

set_option autoImplicit false

namespace LogQuery

namespace RotatedFile

/-! ### The order of files -/

def age (file : RotatedFile) : Nat :=
  match file.rotation with
  | some rotation => rotation + 1
  | none => 0

def Precedes (a b : RotatedFile) : Prop := b.age < a.age ∨ a.age = b.age ∧ a.path < b.path

theorem comesBefore_iff {a b : RotatedFile} :
    a.comesBefore b = true ↔ b.age < a.age ∨ a.age = b.age ∧ a.path ≤ b.path := by
  unfold comesBefore age
  cases a.rotation <;> cases b.rotation <;> simp

theorem comesBefore_trans (a b c : RotatedFile) (first : a.comesBefore b = true)
    (second : b.comesBefore c = true) : a.comesBefore c = true := by
  rw [comesBefore_iff] at *
  rcases first with older | ⟨same, le⟩
  · left
    omega
  · rcases second with older | ⟨sameAge, further⟩
    · left
      omega
    · exact .inr ⟨same.trans sameAge, String.le_trans le further⟩

theorem comesBefore_total (a b : RotatedFile) : (a.comesBefore b || b.comesBefore a) = true := by
  rw [Bool.or_eq_true, comesBefore_iff, comesBefore_iff]
  rcases String.le_total a.path b.path with le | le <;> simp only [le, and_true] <;> omega

theorem Precedes.asymm {a b : RotatedFile} (first : a.Precedes b) : ¬ b.Precedes a := by
  rintro (younger | ⟨same, less⟩) <;> rcases first with older | ⟨sameAge, lessPath⟩
  · omega
  · omega
  · omega
  · exact String.lt_irrefl _ (String.lt_trans less lessPath)

theorem precedes_of_comesBefore {a b : RotatedFile} (before : a.comesBefore b = true)
    (differ : a.path ≠ b.path) : a.Precedes b := by
  rcases comesBefore_iff.1 before with older | ⟨same, le⟩
  · exact .inl older
  · refine .inr ⟨same, ?_⟩
    exact Decidable.by_contra fun notLess => differ (String.le_antisymm le (String.not_lt.1 notLess))

/-- Files with paths of their own have one order only. -/
theorem pairwise_mergeSort {files : List RotatedFile} (apart : (files.map (·.path)).Nodup) :
    (files.mergeSort comesBefore).Pairwise Precedes := by
  have paths : ((files.mergeSort comesBefore).map (·.path)).Nodup :=
    ((List.mergeSort_perm files _).map _).nodup_iff.2 apart
  have sorted := List.pairwise_mergeSort comesBefore_trans comesBefore_total files
  exact (sorted.and (List.pairwise_map.1 paths)).imp fun both =>
    precedes_of_comesBefore both.1 both.2

theorem mergeSort_congr {files others : List RotatedFile} (same : files.Perm others)
    (apart : (files.map (·.path)).Nodup) :
    files.mergeSort comesBefore = others.mergeSort comesBefore := by
  have apartOthers := (same.map _).nodup_iff.1 apart
  refine List.Perm.eq_of_pairwise (fun _ _ _ _ first second => absurd second first.asymm)
    (pairwise_mergeSort apart) (pairwise_mergeSort apartOthers) ?_
  exact (List.mergeSort_perm ..).trans (same.trans (List.mergeSort_perm ..).symm)

end RotatedFile

namespace Catalog

/-! ### The files of a category -/

def IsAscending (catalog : Catalog) : Prop := catalog.categories.Pairwise (· < ·)

variable {catalog : Catalog} {category other : String} {files : List RotatedFile}

theorem files?_of_least (least : ∀ other ∈ catalog.categories, category < other) :
    catalog.files? category = none := by
  rw [files?, List.lookup_eq_none_iff]
  rintro ⟨other, files⟩ member
  rw [bne_iff_ne]
  rintro rfl
  exact String.lt_irrefl _ (least _ (List.mem_map.2 ⟨_, member, rfl⟩))

theorem IsAscending.nodup (ascending : catalog.IsAscending) : (catalog.map (·.1)).Nodup :=
  List.Pairwise.imp (fun less => fun same => String.lt_irrefl _ (same ▸ less)) ascending

theorem IsAscending.files?_eq (ascending : catalog.IsAscending) :
    catalog.files? category = some files ↔ (category, files) ∈ catalog :=
  lookup_eq_some_iff_mem ascending.nodup

/-- A catalog is told by the files of each category. -/
theorem IsAscending.ext {catalog second : Catalog} (ascending : catalog.IsAscending)
    (ascendingSecond : second.IsAscending)
    (same : ∀ category, catalog.files? category = second.files? category) : catalog = second := by
  refine List.Perm.eq_of_pairwise ?_ (List.pairwise_map.1 ascending)
    (List.pairwise_map.1 ascendingSecond) ?_
  · exact fun _ _ _ _ less more => absurd (String.lt_trans less more) (String.lt_irrefl _)
  · rw [List.perm_ext_iff_of_nodup ascending.nodup.of_map ascendingSecond.nodup.of_map]
    rintro ⟨category, files⟩
    rw [← ascending.files?_eq, ← ascendingSecond.files?_eq, same]

section Update

variable (change : List RotatedFile → List RotatedFile)

theorem IsAscending.update_eq (ascending : catalog.IsAscending) :
    Catalog.update change category catalog =
      putInOrder category (change ((catalog.files? category).getD [])) catalog := by
  induction catalog with
  | nil => rfl
  | cons first rest ih =>
    obtain ⟨held, files⟩ := first
    obtain ⟨least, later⟩ := List.pairwise_cons.1 ascending
    rw [Catalog.update, putInOrder]
    split
    · next less =>
      -- all categories that are there come behind this one
      have none_there : files? ((held, files) :: rest) category = none := by
        refine files?_of_least fun other member => ?_
        rcases List.mem_cons.1 member with rfl | member
        · exact less
        · exact String.lt_trans less (least other member)
      rw [none_there]
      rfl
    · split
      · next same => simp [files?, same]
      · next differ =>
        rw [ih later, files?, files?, List.lookup_cons, beq_eq_false_iff_ne.2 differ]

theorem IsAscending.update (ascending : catalog.IsAscending) (category : String) :
    (Catalog.update change category catalog).IsAscending := by
  rw [ascending.update_eq]
  exact pairwise_putInOrder ascending

theorem IsAscending.files?_update (ascending : catalog.IsAscending) :
    (Catalog.update change category catalog).files? other =
      if other = category then some (change ((catalog.files? category).getD []))
      else catalog.files? other := by
  rw [ascending.update_eq]
  exact lookup_putInOrder

end Update

/-! ### Grouping -/

def filesOf (category : String) (entries : List (String × RotatedFile)) : List RotatedFile :=
  (entries.filter (·.1 == category)).map (·.2)

def present (files : List RotatedFile) : Option (List RotatedFile) :=
  if files.isEmpty then none else some files

theorem getD_present (files : List RotatedFile) : (present files).getD [] = files := by
  cases files <;> rfl

/-- Does a catalog have the files of each category, in the order in which they were given? -/
structure Groups (entries : List (String × RotatedFile)) (catalog : Catalog) : Prop where
  ascending : catalog.IsAscending
  files : ∀ category, catalog.files? category = present (filesOf category entries)

theorem Groups.update {entries : List (String × RotatedFile)} (groups : Groups entries catalog)
    (category : String) (file : RotatedFile) :
    Groups (entries ++ [(category, file)]) (Catalog.update (· ++ [file]) category catalog) where
  ascending := groups.ascending.update _ category
  files other := by
    rw [filesOf, List.filter_append, List.map_append, ← filesOf]
    by_cases same : other = category
    · subst same
      rw [groups.ascending.files?_update, if_pos rfl, groups.files, getD_present]
      simp [present]
    · rw [groups.ascending.files?_update, if_neg same, groups.files]
      simp [Ne.symm same]

theorem groups_foldl (entries : List (String × RotatedFile)) :
    Groups entries (entries.foldl
      (fun catalog (category, file) => update (· ++ [file]) category catalog) []) := by
  induction entries using List.reverseRecOn with
  | nil => exact ⟨.nil, fun _ => rfl⟩
  | append_singleton entries entry ih =>
    rw [List.foldl_append]
    exact ih.update entry.1 entry.2

theorem files?_map (change : List RotatedFile → List RotatedFile) :
    files? (catalog.map fun (category, files) => (category, change files)) category =
      (catalog.files? category).map change := by
  induction catalog with
  | nil => rfl
  | cons first rest ih =>
    rw [files?, files?, List.map_cons, List.lookup_cons, List.lookup_cons]
    split
    · rfl
    · exact ih

theorem files?_ofEntries (entries : List (String × RotatedFile)) (category : String) :
    (ofEntries entries).files? category =
      (present (filesOf category entries)).map (·.mergeSort RotatedFile.comesBefore) := by
  rw [← (groups_foldl entries).files]
  exact files?_map (·.mergeSort RotatedFile.comesBefore)

theorem isAscending_ofEntries (entries : List (String × RotatedFile)) :
    (ofEntries entries).IsAscending := by
  have ascending := (groups_foldl entries).ascending
  rw [IsAscending, categories] at ascending ⊢
  rw [ofEntries, List.map_map]
  exact ascending

theorem mem_filesOf {entries : List (String × RotatedFile)} {file : RotatedFile} :
    file ∈ filesOf category entries ↔ (category, file) ∈ entries := by
  simp [filesOf]

theorem files?_ofEntries_iff {entries : List (String × RotatedFile)} :
    (ofEntries entries).files? category = some files ↔
      files = (filesOf category entries).mergeSort RotatedFile.comesBefore ∧ files ≠ [] := by
  rw [files?_ofEntries, present]
  split
  · next nothing =>
    rw [List.isEmpty_iff.1 nothing, List.mergeSort_nil]
    exact iff_of_false (Option.some_ne_none files).symm fun both => both.2 both.1
  · next given =>
    rw [Option.map_some, Option.some_inj]
    constructor
    · rintro rfl
      refine ⟨rfl, fun nothing => given ?_⟩
      have sorted := List.mergeSort_perm (filesOf category entries) RotatedFile.comesBefore
      rw [nothing] at sorted
      exact List.isEmpty_iff.2 sorted.nil_eq.symm
    · exact fun both => both.1.symm

def Lists (catalog : Catalog) (category : String) (file : RotatedFile) : Prop :=
  ∃ files, catalog.files? category = some files ∧ file ∈ files

section

variable {entries : List (String × RotatedFile)}

theorem lists_ofEntries {file : RotatedFile} :
    (ofEntries entries).Lists category file ↔ (category, file) ∈ entries := by
  rw [← mem_filesOf]
  constructor
  · rintro ⟨files, held, member⟩
    rw [(files?_ofEntries_iff.1 held).1, List.mem_mergeSort] at member
    exact member
  · intro given
    have member : file ∈ (filesOf category entries).mergeSort RotatedFile.comesBefore :=
      List.mem_mergeSort.2 given
    exact ⟨_, files?_ofEntries_iff.2 ⟨rfl, List.ne_nil_of_mem member⟩, member⟩

variable (apart : (entries.map (·.2.path)).Nodup)

include apart

theorem nodup_filesOf (category : String) :
    ((filesOf category entries).map (·.path)).Nodup := by
  rw [filesOf, List.map_map]
  exact apart.sublist (List.filter_sublist.map _)

theorem pairwise_ofEntries (held : (ofEntries entries).files? category = some files) :
    files ≠ [] ∧ files.Pairwise RotatedFile.Precedes := by
  obtain ⟨rfl, nonempty⟩ := files?_ofEntries_iff.1 held
  exact ⟨nonempty, RotatedFile.pairwise_mergeSort (nodup_filesOf apart category)⟩

theorem nodup_ofEntries :
    ((ofEntries entries).flatMap fun (_, files) => files.map (·.path)).Nodup := by
  have ascending := isAscending_ofEntries entries
  rw [List.nodup_flatMap]
  constructor
  · rintro ⟨category, files⟩ member
    obtain ⟨rfl, -⟩ := files?_ofEntries_iff.1 (ascending.files?_eq.2 member)
    rw [((List.mergeSort_perm _ _).map _).nodup_iff]
    exact nodup_filesOf apart category
  · refine (List.pairwise_map.1 ascending).imp_of_mem ?_
    rintro ⟨category, files⟩ ⟨other, filesOther⟩ member memberOther less path inOne inOther
    -- one path in two categories would stand for one entry with both
    obtain ⟨file, among, rfl⟩ := List.mem_map.1 inOne
    obtain ⟨fileOther, amongOther, same⟩ := List.mem_map.1 inOther
    have given := lists_ofEntries.1 ⟨files, ascending.files?_eq.2 member, among⟩
    have givenOther := lists_ofEntries.1 ⟨filesOther, ascending.files?_eq.2 memberOther, amongOther⟩
    have one := List.inj_on_of_nodup_map apart given givenOther same.symm
    exact String.lt_irrefl _ ((Prod.mk.inj one).1 ▸ less)

/-- The order in which files are given does not matter. -/
theorem ofEntries_congr {others : List (String × RotatedFile)} (same : entries.Perm others) :
    ofEntries entries = ofEntries others := by
  refine (isAscending_ofEntries entries).ext (isAscending_ofEntries others) fun category => ?_
  have files : (filesOf category entries).Perm (filesOf category others) :=
    (same.filter _).map _
  rw [files?_ofEntries, files?_ofEntries, present, present, files.isEmpty_eq]
  split
  · rfl
  · rw [Option.map_some, Option.map_some,
      RotatedFile.mergeSort_congr files (nodup_filesOf apart category)]

end

/-! ### Logs below a directory -/

def categoryOf (within : List String) (log : LogFileName) : String :=
  "/".intercalate (within ++ [log.name])

end Catalog

/-- Is there a log under this name, at most `recursion` directories below a place? -/
structure Disk.HasLog (disk : Disk) (place : Disk.Place) (recursion : Nat) (within : List String)
    (name : String) (log : LogFileName) : Prop where
  stands : ∃ data, (place ++ within ++ [name], .file data) ∈ disk.entries
  near : within.length ≤ recursion
  named : LogFileName.parse? name = some log

namespace Catalog

theorem isName_of_parse? {name : String} {log : LogFileName}
    (parsed : LogFileName.parse? name = some log) : Path.IsName log.name := by
  have writes := LogFileName.writes_of_parse? parsed
  generalize name.toList = text at writes
  cases writes with
  | intro isLog isName _ =>
    refine ⟨fun empty => isName.nonempty ?_, fun slash => ?_⟩
    · have nothing := congrArg String.toList empty
      rwa [String.toList_ofList] at nothing
    · rw [String.toList_ofList] at slash
      have chars := isName.isNameChar _ slash
      cases chars

section

variable {disk : Disk} (tree : disk.IsTree) {place : Disk.Place} {recursion : Nat}
  {within withinOther : List String} {name nameOther : String} {log other : LogFileName}

include tree

/-- The directories and the name of a log are told from its category. -/
theorem categoryOf_inj (has : disk.HasLog place recursion within name log)
    (hasOther : disk.HasLog place recursion withinOther nameOther other) :
    categoryOf within log = categoryOf withinOther other ↔
      within = withinOther ∧ log.name = other.name := by
  have proper {within : List String} {name : String} {log : LogFileName}
      (has : disk.HasLog place recursion within name log) :
      ∀ part ∈ within ++ [log.name], Path.IsName part := by
    obtain ⟨data, stands⟩ := has.stands
    rw [List.forall_mem_append]
    exact ⟨fun part member => tree.named_way stands part (List.mem_append_left _ member),
      List.forall_mem_singleton.2 (isName_of_parse? has.named)⟩
  rw [categoryOf, categoryOf, Path.intercalate_inj (by simp) (by simp) (proper has)
    (proper hasOther)]
  exact List.append_singleton_inj

theorem path_inj {directory : String} (nonempty : directory ≠ "")
    (has : disk.HasLog place recursion within name log)
    (hasOther : disk.HasLog place recursion withinOther nameOther other) :
    Path.descend directory (within ++ [name]) =
        Path.descend directory (withinOther ++ [nameOther]) ↔
      within = withinOther ∧ name = nameOther := by
  obtain ⟨data, stands⟩ := has.stands
  obtain ⟨dataOther, standsOther⟩ := hasOther.stands
  rw [← List.append_singleton_inj]
  exact ⟨Path.descend_inj nonempty (tree.named_way stands) (tree.named_way standsOther),
    congrArg _⟩

end

section

variable {disk : Disk} (tree : disk.IsTree) {directory : String} {place : Disk.Place}
  (found : disk.find directory = .ok place) (isDirectory : disk.entry? place = some .directory)

include tree found isDirectory

theorem lists_ofDirectory {recursion : Nat} {category : String} {file : RotatedFile} :
    (ofDirectory disk recursion directory).Lists category file ↔
      ∃ within name log, disk.HasLog place recursion within name log ∧
        category = categoryOf within log ∧
        file = ⟨Path.descend directory (within ++ [name]), log.rotation, log.packing⟩ := by
  rw [ofDirectory, lists_ofEntries, List.mem_filterMap]
  constructor
  · rintro ⟨met, walked, told⟩
    obtain ⟨within, name, data, stands, near, rfl⟩ := (tree.mem_walk found isDirectory).1 walked
    rw [entryOf?, Option.map_eq_some_iff] at told
    obtain ⟨log, named, same⟩ := told
    obtain ⟨rfl, rfl⟩ := Prod.mk.inj same
    exact ⟨within, name, log, ⟨⟨data, stands⟩, Nat.le_of_lt_succ near, named⟩, rfl, rfl⟩
  · rintro ⟨within, name, log, ⟨⟨data, stands⟩, near, named⟩, rfl, rfl⟩
    refine ⟨_, (tree.mem_walk found isDirectory).2
      ⟨within, name, data, stands, Nat.lt_succ_of_le near, rfl⟩, ?_⟩
    rw [entryOf?, named]
    rfl

theorem nodup_entries (depth : Nat) :
    (((disk.walk depth directory).filterMap entryOf?).map (·.2.path)).Nodup := by
  have paths := tree.nodup_walk found isDirectory depth
  rw [List.Nodup, List.pairwise_map] at paths ⊢
  rw [List.pairwise_filterMap]
  refine paths.imp fun {met other} differ entry told entryOther toldOther => ?_
  rw [entryOf?, Option.map_eq_some_iff] at told toldOther
  obtain ⟨log, -, rfl⟩ := told
  obtain ⟨logOther, -, rfl⟩ := toldOther
  exact differ

/-- In a tree of directories and files, the catalog of a directory has exactly the logs that are not
too far below it, each once. A category has the logs of one name in one directory, and they are in
the order of their age, whatever the order in which they are met. -/
theorem ofDirectory_collects (recursion : Nat) :
    let catalog := ofDirectory disk recursion directory
    (∀ category file, catalog.Lists category file ↔
      ∃ within name log, disk.HasLog place recursion within name log ∧
        category = categoryOf within log ∧
        file = ⟨Path.descend directory (within ++ [name]), log.rotation, log.packing⟩) ∧
    (catalog.flatMap fun (_, files) => files.map (·.path)).Nodup ∧
    (∀ within name log withinOther nameOther other,
      disk.HasLog place recursion within name log →
      disk.HasLog place recursion withinOther nameOther other →
      (categoryOf within log = categoryOf withinOther other ↔
        within = withinOther ∧ log.name = other.name) ∧
      (Path.descend directory (within ++ [name]) =
          Path.descend directory (withinOther ++ [nameOther]) ↔
        within = withinOther ∧ name = nameOther)) ∧
    catalog.categories.Pairwise (· < ·) ∧
    (∀ category files, catalog.files? category = some files →
      files ≠ [] ∧ files.Pairwise RotatedFile.Precedes) ∧
    ∀ met : List Disk.Sighting, met.Perm (disk.walk (recursion + 1) directory) →
      ofEntries (met.filterMap entryOf?) = catalog := by
  intro catalog
  have apart := nodup_entries tree found isDirectory (recursion + 1)
  have nonempty : directory ≠ "" := by
    rintro rfl
    cases found
  exact ⟨fun category file => lists_ofDirectory tree found isDirectory, nodup_ofEntries apart,
    fun within name log withinOther nameOther other has hasOther =>
      ⟨categoryOf_inj tree has hasOther, path_inj tree nonempty has hasOther⟩,
    isAscending_ofEntries _, fun category files => pairwise_ofEntries apart,
    fun met same => (ofEntries_congr apart (same.filterMap _).symm).symm⟩

end

def nested : Disk where
  entries :=
    [(["logs"], .directory), (["logs", "kern.log.2.gz"], .file []), (["logs", "kern.log"], .file []),
      (["logs", "nginx"], .directory), (["logs", "nginx", "access"], .file []),
      (["logs", "notes.txt"], .file [])]

theorem isTree_nested : nested.IsTree where
  apart := by decide +kernel
  held := by decide +kernel
  named := by decide +kernel
  unlinked := by decide +kernel

theorem ofDirectory_nested :
    let catalog := ofDirectory nested 1 "logs"
    nested.IsTree ∧ nested.find "logs" = .ok ["logs"] ∧
      nested.entry? ["logs"] = some .directory ∧
      (catalog.Lists "kern" ⟨"logs/kern.log.2.gz", some 2, .gzip⟩ ∧
        catalog.Lists "kern" ⟨"logs/kern.log", none, .plain⟩ ∧
        catalog.Lists "nginx/access" ⟨"logs/nginx/access", none, .plain⟩) ∧
      (∀ category file, catalog.Lists category file → file.path ≠ "logs/notes.txt") ∧
      ∃ files, catalog.files? "kern" = some files ∧ files.Pairwise RotatedFile.Precedes := by
  intro catalog
  have found : nested.find "logs" = .ok ["logs"] := by decide +kernel
  have isDirectory : nested.entry? ["logs"] = some .directory := by decide +kernel
  obtain ⟨lists, -, -, -, ordered, -⟩ := ofDirectory_collects isTree_nested found isDirectory 1
  have rotated : catalog.Lists "kern" ⟨"logs/kern.log.2.gz", some 2, .gzip⟩ :=
    (lists _ _).2 ⟨[], "kern.log.2.gz", ⟨"kern", some 2, .gzip⟩,
      ⟨⟨[], by decide +kernel⟩, by decide, by decide +kernel⟩, by decide +kernel, by decide +kernel⟩
  have live : catalog.Lists "kern" ⟨"logs/kern.log", none, .plain⟩ :=
    (lists _ _).2 ⟨[], "kern.log", ⟨"kern", none, .plain⟩,
      ⟨⟨[], by decide +kernel⟩, by decide, by decide +kernel⟩, by decide +kernel, by decide +kernel⟩
  have below : catalog.Lists "nginx/access" ⟨"logs/nginx/access", none, .plain⟩ :=
    (lists _ _).2 ⟨["nginx"], "access", ⟨"access", none, .plain⟩,
      ⟨⟨[], by decide +kernel⟩, by decide, by decide +kernel⟩, by decide +kernel, by decide +kernel⟩
  refine ⟨isTree_nested, found, isDirectory, ⟨rotated, live, below⟩, ?_, ?_⟩
  · rintro category file listed path
    obtain ⟨within, name, log, ⟨⟨data, stands⟩, -, named⟩, rfl, rfl⟩ := (lists _ _).1 listed
    have nonempty : "logs" ≠ "" := by decide
    have notes : "logs/notes.txt" = Path.descend "logs" ([] ++ ["notes.txt"]) := by decide +kernel
    have way := Path.descend_inj nonempty (isTree_nested.named_way stands) (by decide +kernel)
      (path.trans notes)
    obtain ⟨-, rfl⟩ := List.append_singleton_inj.1 way
    have unnamed : LogFileName.parse? "notes.txt" = none := by decide +kernel
    rw [unnamed] at named
    cases named
  · obtain ⟨files, held, -⟩ := rotated
    exact ⟨files, held, (ordered _ _ held).2⟩

end Catalog

end LogQuery
