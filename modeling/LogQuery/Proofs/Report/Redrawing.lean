import LogQuery.Columns.Split
import LogQuery.Proofs.Columns.OneLine
import LogQuery.Proofs.Report.Drawing
import LogQuery.Proofs.Tally.Identity
import LogQuery.Proofs.Text.Numeral
import LogQuery.Proofs.Text.Width

/-! A table that is drawn in place of the one before.

The cursor moves up by as many lines as the table on the screen has rows. That is as many as were
written only where each row is one line of text, and a row is more than one where a column of its
records has a line feed in it.
-/

set_option autoImplicit false

namespace LogQuery.Report

open Text

inductive Call where
  | consume (record : Record)
  | update
  | finish
  deriving DecidableEq, Repr

def Call.record? : Call → Option Record
  | consume record => some record
  | _ => none

def call (report : Report) : Call → Report × String
  | .consume record => report.consume record
  | .update => report.update
  | .finish => report.finish

def callAll (report : Report) (calls : List Call) : Report :=
  calls.foldl (fun report call => (report.call call).1) report

/-- The rows that are to be replaced behind some calls: those of the last update. What was drawn to
finish stays. -/
def standing (report : Report) (rows : List String) : List Call → List String
  | [] => rows
  | .consume record :: calls => (report.call (.consume record)).1.standing rows calls
  | .update :: calls => (report.call .update).1.standing report.rows calls
  | .finish :: calls => (report.call .finish).1.standing [] calls

/-! ## Line feeds -/

theorem lineFeeds_asLines (rows : List String) :
    lineFeeds (asLines rows) = rows.length + lineFeeds (String.join rows) := by
  induction rows with
  | nil => rfl
  | cons row rows ih =>
    have lines : asLines (row :: rows) = row ++ "\n" ++ asLines rows := String.join_cons
    have feed : lineFeeds "\n" = 1 := by decide
    rw [lines, String.join_cons, lineFeeds_append, lineFeeds_append, lineFeeds_append, ih, feed,
      List.length_cons]
    omega

theorem isOneLine_bar (width : Nat) (fraction : Float) : IsOneLine (bar width fraction) := by
  have element (place : Nat) : barElements.getD place ' ' ≠ '\n' := by
    have none_feeds : '\n' ∉ barElements := by decide
    rw [List.getD_eq_getElem?_getD]
    cases there : barElements[place]? with
    | none => decide
    | some c => exact fun feed => none_feeds (feed ▸ List.mem_of_getElem? there)
  have cell (filled place : Nat) : barCell filled place ≠ '\n' := by
    unfold barCell
    repeat' split
    · decide
    · decide
    · exact element _
  rw [bar, isOneLine_ofList]
  intro fed
  obtain ⟨place, -, same⟩ := List.mem_map.1 fed
  exact cell _ place same

theorem tableRow_eq (style : TableStyle) (most : Nat) (entry : Tally.Entry) :
    ∃ front, IsOneLine front ∧ front.length = max 9 (toString entry.count).length + 18 ∧
      tableRow style most entry = front ++ if style.top == 0 then " ".intercalate entry.columns
        else truncate (" ".intercalate entry.columns) (style.width - (width front.toList + 1)) := by
  let fraction := entry.count.toUInt64.toFloat / most.toUInt64.toFloat
  let front := padLeft 9 ' ' (toString entry.count) ++ "▕" ++ bar barWidth fraction ++ " "
  refine ⟨front, ?_, ?_, ?_⟩
  · simp only [front, isOneLine_append]
    exact ⟨⟨⟨isOneLine_padLeft (by decide) (isOneLine_toString _), by decide⟩, isOneLine_bar _ _⟩,
      by decide⟩
  · have mark : "▕".length = 1 := by decide
    have space : " ".length = 1 := by decide
    have steps : (bar barWidth fraction).length = 16 := by
      rw [bar, String.length_ofList, List.length_map, List.length_range]
      rfl
    simp only [front, String.length_append, length_padLeft, mark, space, steps, Nat.add_assoc]
  · rw [apply_ite (front ++ ·)]
    rfl

theorem isOneLine_tableRow {style : TableStyle} {most : Nat} {entry : Tally.Entry}
    (each : ∀ column ∈ entry.columns, IsOneLine column) : IsOneLine (tableRow style most entry) := by
  have columns : IsOneLine (" ".intercalate entry.columns) :=
    isOneLine_intercalate (by decide) each
  obtain ⟨front, single, -, row⟩ := tableRow_eq style most entry
  rw [row, isOneLine_append]
  refine ⟨single, ?_⟩
  split
  · exact columns
  · intro fed
    obtain within | ellipsis := mem_truncate fed
    · exact columns within
    · cases ellipsis

/-! ## Histories -/

section

variable {style : TableStyle} {tally : Tally} {seen : List Record} {drawn : Nat} {rows : List String}

def Plain (record : Record) : Prop :=
  ∃ line, IsOneLine line ∧ ¬ Columns.StringFeeds line ∧ record.columns ⊆ Columns.ofLine line

theorem Plain.isOneLine {record : Record} (plain : Plain record) :
    ∀ column ∈ record.columns, IsOneLine column := by
  obtain ⟨line, single, quiet, columns⟩ := plain
  intro column listed
  by_contra fed
  exact quiet ((Columns.exists_column_iff single).1 ⟨column, columns listed, fed⟩)

theorem isOneLine_tableRows (accounts : tally.Accounts seen) (plain : ∀ record ∈ seen, Plain record) :
    ∀ row ∈ tableRows style tally, IsOneLine row := by
  intro row listed
  obtain ⟨entry, shown, rfl⟩ := List.mem_map.1 listed
  have ranked : entry ∈ tally.ranked := by
    split at shown
    · exact shown
    · exact List.mem_of_mem_take shown
  obtain ⟨record, given, columns, -⟩ := accounts.exists_source (List.mem_mergeSort.1 ranked)
  exact isOneLine_tableRow (columns ▸ (plain record given).isOneLine)

/-- The count kept is that of the rows to be replaced. -/
theorem drawn_callAll {report : Report} (draws : report.draws = true)
    (counts : report.drawn = rows.length) (calls : List Call) :
    (report.callAll calls).drawn = (report.standing rows calls).length := by
  induction calls generalizing report rows with
  | nil => exact counts
  | cons call calls ih =>
    cases call with
    | consume record =>
      obtain ⟨next, consumes, stays, same⟩ := consume_of_draws draws record
      have taken : (report.call (.consume record)).1 = next := congrArg Prod.fst consumes
      rw [callAll, List.foldl_cons, standing, taken]
      exact ih stays (same.trans counts)
    | update =>
      exact ih ((draws_withDrawn _).trans draws) (drawn_withDrawn draws _)
    | finish => exact ih ((draws_withDrawn _).trans draws) (drawn_withDrawn draws _)

theorem callAll_uniq (calls : List Call) :
    ∃ drawn', (uniq style tally drawn).callAll calls =
      uniq style (tally.addAll (calls.filterMap Call.record?)) drawn' := by
  induction calls generalizing tally drawn with
  | nil => exact ⟨drawn, rfl⟩
  | cons call calls ih =>
    cases call with
    | consume record => exact ih
    | update => exact ih
    | finish => exact ih

theorem isOneLine_standing (accounts : tally.Accounts seen) (calls : List Call)
    (plain : ∀ record ∈ seen ++ calls.filterMap Call.record?, Plain record)
    (each : ∀ row ∈ rows, IsOneLine row) :
    ∀ row ∈ (uniq style tally drawn).standing rows calls, IsOneLine row := by
  -- on the calls, with the table that counts what was seen; only an update replaces the rows
  induction calls generalizing tally seen drawn rows with
  | nil => exact each
  | cons call calls ih =>
    cases call with
    | consume record =>
      refine ih (accounts.add record) ?_ each
      rwa [List.append_assoc]
    | update => exact ih accounts plain (isOneLine_tableRows accounts fun record given =>
        plain record (List.mem_append_left _ given))
    | finish => exact ih accounts plain nofun

end

theorem rewind_eq (lines : Nat) :
    rewind lines = if min lines 65535 = 0 then "" else s!"\x1b[{min lines 65535}A\x1b[J" := by
  cases lines with
  | zero => rfl
  | succ lines =>
    have some_up : ¬ min (lines + 1) 65535 = 0 := by omega
    rw [if_neg some_up]
    rfl

/-- Whatever came before, drawing begins with going up by as many lines as the table to be replaced
has rows. Left over of it are as many lines as there are line feeds inside its rows, so none where
the records come from lines without a string that feeds. -/
theorem call_moves_up (style : TableStyle) (calls : List Call) :
    let report := (ofTable style).callAll calls
    let records := calls.filterMap Call.record?
    let table := (ofTable style).standing [] calls
    let up := min table.length 65535
    report.rows = tableRows style (({} : Tally).addAll records) ∧
    (∀ call ∈ [Call.update, Call.finish],
      (report.call call).2 = (if up = 0 then "" else s!"\x1b[{up}A\x1b[J") ++ asLines report.rows) ∧
    (table.length ≤ 65535 →
      lineFeeds (asLines table) = up + lineFeeds (String.join table) ∧
      (lineFeeds (asLines table) = up ↔ ∀ row ∈ table, IsOneLine row)) ∧
    ((∀ record ∈ records, Plain record) → ∀ row ∈ table, IsOneLine row) := by
  intro report records table up
  have counted : report.drawn = table.length := drawn_callAll rfl rfl calls
  refine ⟨?_, ?_, fun few => ?_,
    fun plain => isOneLine_standing Tally.accounts_empty calls plain nofun⟩
  · obtain ⟨drawn, report_eq⟩ : ∃ drawn, report = uniq style (({} : Tally).addAll records) drawn :=
      callAll_uniq calls
    rw [report_eq]
    rfl
  · have moves : rewind report.drawn = if up = 0 then "" else s!"\x1b[{up}A\x1b[J" := by
      rw [counted, rewind_eq]
    rw [List.forall_mem_cons, List.forall_mem_singleton, ← moves]
    exact ⟨rfl, rfl⟩
  · have all : up = table.length := Nat.min_eq_left few
    rw [lineFeeds_asLines, all, ← isOneLine_join, ← lineFeeds_eq_zero]
    exact ⟨rfl, by omega⟩

theorem tableRows_single (width : Nat) (live : Bool) (record : Record) :
    tableRows ⟨2, width, live⟩ (({} : Tally).addAll [record]) =
      [tableRow ⟨2, width, live⟩ 1 ⟨record.columns, 1⟩] := by
  have entries : (({} : Tally).addAll [record]).entries = #[⟨record.columns, 1⟩] := by
    have new : ({} : Tally).index[record.key]? = none := Std.HashMap.getElem?_empty
    rw [Tally.addAll, List.foldl_cons, List.foldl_nil, Tally.add_new new]
    rfl
  simp [tableRows, Tally.ranked, Tally.highest, entries]

theorem call_moves_up_plain :
    let record : Record := { line := "GET /", columns := ["GET", "/"] }
    let calls : List Call := [.consume record, .update]
    let style : TableStyle := ⟨2, 80, true⟩
    let table := (ofTable style).standing [] calls
    Plain record ∧ table.length = 1 ∧ lineFeeds (asLines table) = 1 ∧
      (((ofTable style).callAll calls).call .update).2 =
        "\x1b[1A\x1b[J" ++ asLines ((ofTable style).callAll calls).rows := by
  intro record calls style table
  have columns : Columns.ofLine "GET /" = ["GET", "/"] := by decide +kernel
  have quiet : ¬ Columns.StringFeeds "GET /" := fun feeds =>
    absurd feeds.1 (by decide +kernel)
  have plain : Plain record := ⟨"GET /", by decide, quiet, columns ▸ List.Subset.refl _⟩
  have single : table = [tableRow style 1 ⟨["GET", "/"], 1⟩] := tableRows_single 80 true record
  have length : table.length = 1 := congrArg List.length single
  obtain ⟨-, moves, feeds, fine⟩ := call_moves_up style calls
  have exact_lines := (feeds (by rw [length]; decide)).2.2 (fine (List.forall_mem_singleton.2 plain))
  have drawn := moves .update List.mem_cons_self
  rw [length] at exact_lines drawn
  exact ⟨plain, length, exact_lines, drawn⟩

/-- A line feed in a string of a JSON line goes into the table: its row takes two lines, of which
the first is left over when the table is drawn again. -/
theorem json_line_feed_left_over :
    let record : Record := { line := "\x7b\"m\":\"a\\nb\"\x7d", columns := ["a\nb"] }
    let report := (ofTable ⟨2, 200, true⟩).callAll [.consume record]
    let table := report.rows
    IsOneLine record.line ∧ Columns.ofLine record.line = record.columns ∧
      report.update.2 = asLines table ∧ lineFeeds (asLines table) = 2 ∧
      report.update.1.update.2 = "\x1b[1A\x1b[J" ++ asLines table := by
  intro record report table
  have single : table = [tableRow ⟨2, 200, true⟩ 1 ⟨["a\nb"], 1⟩] := tableRows_single 200 true record
  have fed : lineFeeds (tableRow ⟨2, 200, true⟩ 1 ⟨["a\nb"], 1⟩) = 1 := by
    obtain ⟨front, oneLine, length, row⟩ := tableRow_eq ⟨2, 200, true⟩ 1 ⟨["a\nb"], 1⟩
    -- the steps of the bar are floating point, but however many they are, three cells are left
    have wide := width_le_length front.toList
    have columns : width (" ".intercalate ["a\nb"]).toList = 3 := by decide +kernel
    have one : (toString 1).length = 1 := by decide
    rw [String.length_toList, length, one] at wide
    have room : 3 ≤ 200 - (width front.toList + 1) := by omega
    have fed : lineFeeds (" ".intercalate ["a\nb"]) = 1 := by decide
    rw [row, lineFeeds_append, lineFeeds_eq_zero.2 oneLine, if_neg (by decide),
      truncate_of_le (columns ▸ room), fed]
  have drawn : report.update.1.drawn = 1 := congrArg List.length single
  refine ⟨by decide, by decide +kernel, ?_, ?_, ?_⟩
  · exact String.empty_append ..
  · rw [lineFeeds_asLines, single, String.join_cons, lineFeeds_append, fed]
    rfl
  · have rewound : report.update.1.update.2 = rewind report.update.1.drawn ++ asLines table := rfl
    rw [rewound, drawn]
    rfl

end LogQuery.Report
