import LogQuery.Proofs.Text.Split
import LogQuery.Source.Category
import Mathlib.Data.List.Nodup

/-! Categories as they are listed, and as they are asked for.

A category is listed with its source. Asked for in this way it is looked for in that source and in
no other one; asked for alone it is found if exactly one source has it.
-/

set_option autoImplicit false

namespace LogQuery

/-! ### Names with a slash -/

theorem toList_slashed (front rest : String) :
    (front ++ "/" ++ rest).toList = front.toList ++ '/' :: rest.toList := by
  rw [String.toList_append, String.toList_append, List.append_assoc]
  rfl

theorem splitAtSlash?_append {front : String} (single : '/' ∉ front.toList) (rest : String) :
    splitAtSlash? (front ++ "/" ++ rest) = some (front, rest) := by
  rw [splitAtSlash?, toList_slashed, Text.splitAtFirst?_append single]
  simp

theorem splitAtSlash?_eq_some_iff {text front rest : String} :
    splitAtSlash? text = some (front, rest) ↔ text = front ++ "/" ++ rest ∧ '/' ∉ front.toList := by
  constructor
  · intro cut
    obtain ⟨⟨before, behind⟩, cut, same⟩ := Option.map_eq_some_iff.1 cut
    obtain ⟨whole, single⟩ := Text.splitAtFirst?_eq_some_iff.1 cut
    cases same
    refine ⟨?_, by rwa [String.toList_ofList]⟩
    rw [← String.toList_inj, toList_slashed, String.toList_ofList, String.toList_ofList, whole]
  · rintro ⟨rfl, single⟩
    exact splitAtSlash?_append single rest

theorem slashed_inj {front other rest behind : String} (single : '/' ∉ front.toList)
    (singleOther : '/' ∉ other.toList) :
    front ++ "/" ++ rest = other ++ "/" ++ behind ↔ front = other ∧ rest = behind := by
  refine ⟨fun same => ?_, fun ⟨sameFront, sameRest⟩ => by rw [sameFront, sameRest]⟩
  have cut := splitAtSlash?_append single rest
  rw [same, splitAtSlash?_append singleOther] at cut
  cases cut
  exact ⟨rfl, rfl⟩

namespace Address

variable {names : List String} {name category text : String}

theorem read_known (single : '/' ∉ name.toList) (known : name ∈ names) :
    read names (name ++ "/" ++ category) =
      if category = "" then .malformed else .qualified name category := by
  have nonempty : (name ++ "/" ++ category).isEmpty = false := by
    rw [Bool.eq_false_iff]
    intro empty
    have nothing := congrArg String.toList (String.isEmpty_iff.1 empty)
    rw [toList_slashed] at nothing
    exact absurd nothing (by simp)
  rw [read, nonempty, splitAtSlash?_append single]
  simp [known, String.isEmpty_iff]

theorem read_bare (nonempty : text ≠ "")
    (foreign : ∀ name ∈ names, '/' ∉ name.toList → ∀ category, text ≠ name ++ "/" ++ category) :
    read names text = .bare := by
  rw [read, if_neg (mt String.isEmpty_iff.1 nonempty)]
  split
  · rfl
  · next name category cut =>
    obtain ⟨same, single⟩ := splitAtSlash?_eq_some_iff.1 cut
    rw [if_pos]
    rw [Bool.not_eq_true', Bool.eq_false_iff]
    exact fun known => foreign name (List.contains_iff_mem.1 known) single category same

end Address

namespace Source

theorem occursIn_iff {part text : List Char} : occursIn part text = true ↔ part <:+: text := by
  induction text with
  | nil => simp [occursIn]
  | cons c text ih =>
    rw [occursIn, Bool.or_eq_true, List.isPrefixOf_iff_prefix, ih, List.infix_cons_iff]

/-! ### Listing -/

section

variable {sources : List Source}

theorem mem_listing {name : String} : name ∈ listing sources none ↔
    ∃ source ∈ sources, ∃ category ∈ source.categories, name = source.qualify category := by
  simp only [listing, List.mem_mergeSort, List.mem_flatMap, List.mem_map, eq_comm]

theorem pairwise_sorted (names : List String) : names.mergeSort.Pairwise (· ≤ ·) := by
  have sorted : names.mergeSort.Pairwise fun a b => decide (a ≤ b) = true := by
    refine List.pairwise_mergeSort (fun _ _ _ first second => decide_eq_true ?_) (fun a b => ?_) _
    · exact String.le_trans (of_decide_eq_true first) (of_decide_eq_true second)
    · simpa using String.le_total a b
  exact sorted.imp of_decide_eq_true

theorem listing_some (part : String) : listing sources (some part) =
    (listing sources none).filter fun name => occursIn part.toList name.toList := by
  refine List.Perm.eq_of_pairwise ?_ (pairwise_sorted _) ((pairwise_sorted _).filter _) ?_
  · exact fun _ _ _ _ => String.le_antisymm
  · exact (List.mergeSort_perm ..).trans ((List.mergeSort_perm ..).symm.filter _)

variable (single : ∀ source ∈ sources, '/' ∉ source.name.toList)
  (apart : (sources.map (·.name)).Nodup)

include single apart

theorem qualify_inj {source other : Source} (among : source ∈ sources) (amongOther : other ∈ sources)
    {category categoryOther : String}
    (same : source.qualify category = other.qualify categoryOther) :
    source = other ∧ category = categoryOther := by
  obtain ⟨name, rfl⟩ := (slashed_inj (single _ among) (single _ amongOther)).1 same
  exact ⟨List.inj_on_of_nodup_map apart among amongOther name, rfl⟩

theorem pairwise_listing (own : ∀ source ∈ sources, source.categories.Nodup) :
    (listing sources none).Pairwise (· < ·) := by
  have distinct : (sources.flatMap fun source => source.categories.map source.qualify).Nodup := by
    rw [List.nodup_flatMap]
    constructor
    · -- one source names each of its categories once
      intro source among
      exact (own source among).map_on fun _ _ _ _ same =>
        (qualify_inj single apart among among same).2
    · -- two sources have nothing in common, as their names stand in front of the first slash
      refine (List.Nodup.of_map _ apart).imp_of_mem fun among amongOther differ => ?_
      intro name named namedOther
      obtain ⟨category, -, rfl⟩ := List.mem_map.1 named
      obtain ⟨categoryOther, -, same⟩ := List.mem_map.1 namedOther
      exact differ (qualify_inj single apart among amongOther same.symm).1
  have sorted := (pairwise_sorted _).and ((List.mergeSort_perm _ _).nodup_iff.2 distinct)
  refine sorted.imp fun {name other} ordered => ?_
  exact Decidable.by_contra fun notLess =>
    ordered.2 (String.le_antisymm ordered.1 (String.not_lt.1 notLess))

end

/-! ### Asking -/

/-- Does a source have a chain for the categories that it says it has, and for no others? -/
def IsCoherent (source : Source) : Prop :=
  ∀ category, source.contains category = (source.chain? category).isSome

theorem isCoherent_ofCatalog (name : String) (catalog : Catalog) :
    (ofCatalog name catalog).IsCoherent := fun _ => (Option.isSome_map ..).symm

theorem isCoherent_ofHomes (name : String) (homes : List (String × String)) :
    (ofHomes name homes).IsCoherent := fun _ => (Option.isSome_map ..).symm

theorem isCoherent_ofStreams (name : String) (streams : List (String × ByteStream)) :
    (ofStreams name streams).IsCoherent := fun _ => (Option.isSome_map ..).symm

section

variable {sources : List Source} {source other : Source} {text : String}

theorem resolve_malformed (malformed : Address.read (sources.map (·.name)) text = .malformed) :
    resolve sources text = .error (.badFormat text) := by
  rw [resolve, malformed]

theorem resolve_bare (bare : Address.read (sources.map (·.name)) text = .bare) :
    resolve sources text = resolveBare sources text := by
  rw [resolve, bare]

/-- With its source, a category is looked for nowhere else. -/
theorem resolve_qualify (apart : (sources.map (·.name)).Nodup) (among : source ∈ sources)
    (single : '/' ∉ source.name.toList) (category : String) :
    resolve sources (source.qualify category) =
      if category = "" then .error (.badFormat (source.qualify category))
      else (source.chain? category).elim (.error (.categoryNotFound (source.qualify category))) .ok := by
  have known : source.name ∈ sources.map (·.name) := List.mem_map_of_mem among
  -- the first source of the name is the only one
  have found : sources.find? (·.name == source.name) = some source := by
    cases search : sources.find? (·.name == source.name) with
    | none => simpa using List.find?_eq_none.1 search source among
    | some other =>
      have name : other.name = source.name := by simpa using List.find?_some search
      rw [List.inj_on_of_nodup_map apart (List.mem_of_find?_eq_some search) among name]
  have reading : Address.read (sources.map (·.name)) (source.qualify category) =
      if category = "" then .malformed else .qualified source.name category :=
    Address.read_known single known
  split
  · next empty =>
    rw [if_pos empty] at reading
    exact resolve_malformed reading
  · next nonempty =>
    rw [resolve, reading, if_neg nonempty]
    dsimp only
    rw [found, Option.bind_some]
    cases source.chain? category <;> rfl

theorem resolveBare_only (coherent : source.IsCoherent) (apart : sources.Nodup)
    (among : source ∈ sources) (contains : source.contains text = true)
    (only : ∀ other ∈ sources, other.contains text = true → other = source) :
    ∃ chain, source.chain? text = some chain ∧ resolveBare sources text = .ok chain := by
  obtain ⟨chain, has⟩ := Option.isSome_iff_exists.1 ((coherent text).symm.trans contains)
  have sole : sources.filter (·.contains text) = [source] := by
    refine List.perm_singleton.1 ((List.perm_ext_iff_of_nodup (apart.filter _)
      (List.nodup_singleton source)).2 fun other => ?_)
    rw [List.mem_filter, List.mem_singleton]
    exact ⟨fun both => only other both.1 both.2, fun same => same ▸ ⟨among, contains⟩⟩
  refine ⟨chain, has, ?_⟩
  rw [resolveBare, sole]
  dsimp only
  rw [has]

theorem resolveBare_several (among : source ∈ sources) (amongOther : other ∈ sources)
    (contains : source.contains text = true) (containsOther : other.contains text = true)
    (differ : source ≠ other) :
    resolveBare sources text =
      .error (.ambiguous text ((sources.filter (·.contains text)).map (·.qualify text))) := by
  have member : source ∈ sources.filter (·.contains text) := List.mem_filter.2 ⟨among, contains⟩
  have memberOther : other ∈ sources.filter (·.contains text) :=
    List.mem_filter.2 ⟨amongOther, containsOther⟩
  rw [resolveBare]
  split
  · next nowhere =>
    rw [nowhere] at member
    cases member
  · next one sole =>
    rw [sole, List.mem_singleton] at member memberOther
    exact absurd (member.trans memberOther.symm) differ
  · rfl

theorem resolveBare_nowhere (nowhere : ∀ source ∈ sources, source.contains text = false) :
    (∀ front rest, text = front ++ "/" ++ rest → '/' ∉ front.toList →
      resolveBare sources text = .error (.sourceNotFound front)) ∧
    ('/' ∉ text.toList → resolveBare sources text = .error (.categoryNotFound text)) := by
  have nothing : sources.filter (·.contains text) = [] :=
    List.filter_eq_nil_iff.2 fun source among => by simp [nowhere source among]
  rw [resolveBare, nothing]
  dsimp only
  constructor
  · intro front rest same single
    rw [splitAtSlash?_eq_some_iff.2 ⟨same, single⟩]
  · intro whole
    cases cut : splitAtSlash? text with
    | none => rfl
    | some parts =>
      obtain ⟨same, -⟩ := splitAtSlash?_eq_some_iff.1 cut
      rw [same, toList_slashed] at whole
      exact absurd (List.mem_append_right _ List.mem_cons_self) whole

/-- A text that begins with the name of a source and a slash is a category of that source or none.
Every other text is a category alone: the only source that has it gives its chain, of several
sources none is chosen but all are named in their order, and if no source has it, there is none. -/
theorem resolve_by_reading (coherent : ∀ source ∈ sources, source.IsCoherent)
    (apart : (sources.map (·.name)).Nodup) (nonempty : text ≠ "") :
    (∀ source ∈ sources, '/' ∉ source.name.toList → ∀ category, text = source.qualify category →
      resolve sources text =
        if category = "" then .error (.badFormat text)
        else (source.chain? category).elim (.error (.categoryNotFound text)) .ok) ∧
    ((∀ source ∈ sources, '/' ∉ source.name.toList → ∀ category, text ≠ source.qualify category) →
      (∀ source ∈ sources, source.contains text = true →
        (∀ other ∈ sources, other.contains text = true → other = source) →
        ∃ chain, source.chain? text = some chain ∧ resolve sources text = .ok chain) ∧
      (∀ source ∈ sources, ∀ other ∈ sources, source.contains text = true →
        other.contains text = true → source ≠ other →
        resolve sources text =
          .error (.ambiguous text ((sources.filter (·.contains text)).map (·.qualify text)))) ∧
      ((∀ source ∈ sources, source.contains text = false) →
        (∀ front rest, text = front ++ "/" ++ rest → '/' ∉ front.toList →
          resolve sources text = .error (.sourceNotFound front)) ∧
        ('/' ∉ text.toList → resolve sources text = .error (.categoryNotFound text)))) := by
  constructor
  · rintro source among single category rfl
    exact resolve_qualify apart among single category
  · intro foreign
    -- no name of a source stands in front, so that the text is a category alone
    have bare : Address.read (sources.map (·.name)) text = .bare := by
      refine Address.read_bare nonempty fun name known single category => ?_
      obtain ⟨source, among, rfl⟩ := List.mem_map.1 known
      exact foreign source among single category
    rw [resolve_bare bare]
    refine ⟨fun source among contains only => ?_, fun source among other amongOther contains
      containsOther differ => ?_, resolveBare_nowhere⟩
    · exact resolveBare_only (coherent source among) apart.of_map among contains only
    · exact resolveBare_several among amongOther contains containsOther differ

end

def rotatedLogs : Source :=
  .ofCatalog "generic" [("scribe/app", [⟨"logs/scribe/app.log", none, .plain⟩]),
    ("sub/app", [⟨"logs/sub/app.log", none, .plain⟩]), ("www", [⟨"logs/www", none, .plain⟩])]

def threeSources : List Source :=
  [rotatedLogs, .ofHomes "scribe" [("www", "hourly")], .ofStreams "stdin" [("-", [])]]

theorem coherent_threeSources : ∀ source ∈ threeSources, source.IsCoherent := by
  rw [threeSources, List.forall_mem_cons, List.forall_mem_cons, List.forall_mem_singleton]
  exact ⟨isCoherent_ofCatalog _ _, isCoherent_ofHomes _ _, isCoherent_ofStreams _ _⟩

theorem eq_rotatedLogs {text : String}
    (elsewhere : ∀ other ∈ threeSources.tail, other.contains text = false) :
    ∀ other ∈ threeSources, other.contains text = true → other = rotatedLogs := by
  rw [threeSources, List.forall_mem_cons]
  refine ⟨fun _ => rfl, fun other among contains => ?_⟩
  rw [elsewhere other among] at contains
  cases contains

theorem resolve_by_reading_threeSources :
    (∀ source ∈ threeSources, source.IsCoherent) ∧ (threeSources.map (·.name)).Nodup ∧
      resolve threeSources "sub/app" = .ok (.rotated [⟨"logs/sub/app.log", none, .plain⟩]) ∧
      resolve threeSources "www" = .error (.ambiguous "www" ["generic/www", "scribe/www"]) := by
  have apart : (threeSources.map (·.name)).Nodup := by decide +kernel
  refine ⟨coherent_threeSources, apart, ?_, ?_⟩
  · obtain ⟨-, alone⟩ :=
      resolve_by_reading coherent_threeSources apart (by decide : "sub/app" ≠ "")
    obtain ⟨only, -⟩ := alone fun source among single category same => by
      have cut := splitAtSlash?_eq_some_iff.2 ⟨same, single⟩
      have first : splitAtSlash? "sub/app" = some ("sub", "app") := by decide +kernel
      rw [first] at cut
      have unknown : "sub" ∉ threeSources.map (·.name) := by decide +kernel
      have name : source.name = "sub" := (congrArg Prod.fst (Option.some.inj cut)).symm
      exact unknown (name ▸ List.mem_map_of_mem among)
    obtain ⟨chain, has, resolved⟩ := only rotatedLogs List.mem_cons_self (by decide +kernel)
      (eq_rotatedLogs (by decide +kernel))
    cases has
    exact resolved
  · obtain ⟨-, alone⟩ := resolve_by_reading coherent_threeSources apart (by decide : "www" ≠ "")
    obtain ⟨-, several, -⟩ := alone fun source among single category same => by
      have cut := splitAtSlash?_eq_some_iff.2 ⟨same, single⟩
      have whole : splitAtSlash? "www" = none := by decide +kernel
      rw [whole] at cut
      cases cut
    have differ : rotatedLogs ≠ .ofHomes "scribe" [("www", "hourly")] := fun same =>
      absurd (congrArg (·.name) same) (by decide)
    rw [several _ List.mem_cons_self _ (List.mem_cons_of_mem _ List.mem_cons_self)
      (by decide +kernel) (by decide +kernel) differ]
    have candidates : (threeSources.filter (·.contains "www")).map (·.qualify "www") =
        ["generic/www", "scribe/www"] := by decide +kernel
    rw [candidates]

/-- Only one source has the category, but its first name is that of another source, which alone is
asked. -/
theorem loneCategory_hidden :
    (∀ source ∈ threeSources, source.IsCoherent) ∧ (threeSources.map (·.name)).Nodup ∧
      (∀ source ∈ threeSources, ∀ category, "scribe/app" = source.qualify category →
        source.contains category = false) ∧
      (rotatedLogs ∈ threeSources ∧ rotatedLogs.contains "scribe/app" = true ∧
        ∀ other ∈ threeSources, other.contains "scribe/app" = true → other = rotatedLogs) ∧
      resolve threeSources "scribe/app" = .error (.categoryNotFound "scribe/app") := by
  refine ⟨coherent_threeSources, by decide +kernel, ?_, ?_, rfl⟩
  · intro source among category same
    have single : ∀ source ∈ threeSources, '/' ∉ source.name.toList := by decide +kernel
    have cut := splitAtSlash?_eq_some_iff.2 ⟨same, single source among⟩
    have parts : splitAtSlash? "scribe/app" = some ("scribe", "app") := by decide +kernel
    obtain ⟨name, rfl⟩ := Prod.mk.inj (Option.some.inj (parts.symm.trans cut))
    have lacks : ∀ source ∈ threeSources, "scribe" = source.name → source.contains "app" = false := by
      decide +kernel
    exact lacks source among name
  · exact ⟨List.mem_cons_self, by decide +kernel, eq_rotatedLogs (by decide +kernel)⟩

end Source

end LogQuery
