import LocaleGen.Proofs.FileFrame
import LocaleGen.Proofs.LogLine
import LocaleGen.Proofs.LogQuery
import Mathlib

/-!
# What a damaged line costs

A line that is blank or no JSON costs nothing: with it a file has the entries that it has without
(`BuildLog.entriesIn_insert`), so every query has the same answer (`BuildLog.query_put`).

That a file can be read at all is another question. Its bytes have to stand for a text, and no line
may obstruct, which a value that is no object does as soon as members are asked for. A query ends in
a fault just if it comes to a day that cannot be read (`BuildLog.query_reads_around_damage`).
-/

namespace LocaleGen

open Utf8 (encodeAll)

theorem Text.exists_normalizeNewlines_concat (t : Text) :
    ∃ t', normalizeNewlines (t ++ [CodePoint.ofChar '\n']) = t' ++ [CodePoint.ofChar '\n'] := by
  have hfeed : normalizeNewlines [CodePoint.ofChar '\n'] = [CodePoint.ofChar '\n'] := by decide
  by_cases h : t.getLast? = some (CodePoint.ofChar '\r')
  · -- The carriage return and the line feed are one line end.
    obtain ⟨start, rfl⟩ := List.getLast?_eq_some_iff.mp h
    have hboth : normalizeNewlines [CodePoint.ofChar '\r', '\n'] =
      [CodePoint.ofChar '\n'] := by decide
    refine ⟨normalizeNewlines start, ?_⟩
    rw [List.append_assoc, List.singleton_append, normalizeNewlines_append _ (by decide), hboth]
  · exact ⟨normalizeNewlines t, by rw [normalizeNewlines_append_of_getLast? h, hfeed]⟩

namespace BuildLog

variable {log : BuildLog} {q : LogQuery} {tree tree' : FileTree} {today first : Date}
    {filters : List (Text × Json)} {before after bytes bytes' : Bytes} {line : Text}

/-! ## Lines that are put into a file -/

def IsWhole (bytes : Bytes) : Prop :=
  ∃ t, Utf8.decode bytes = .ok t ∧ (t = [] ∨ ∃ start, t = start ++ [CodePoint.ofChar '\n'])

def withEnd (line : Text) : Text := line ++ [CodePoint.ofChar '\n']

/-- A line, without its end. -/
structure IsLine (line : Text) : Prop where
  isScalar : line.IsScalar
  noFeed : CodePoint.ofChar '\n' ∉ line
  noReturn : CodePoint.ofChar '\r' ∉ line

theorem linesOf_of_decode {t : Text} (h : Utf8.decode bytes = .ok t) :
    linesOf bytes = Text.splitOn t.normalizeNewlines '\n' := by
  rw [linesOf, h]

theorem decode_append {t u : Text} (h : Utf8.decode before = .ok t)
    (h' : Utf8.decode after = .ok u) : Utf8.decode (before ++ after) = .ok (t ++ u) :=
  Utf8.decode_eq_ok.mpr ((Utf8.decode_eq_ok.mp h).append (Utf8.decode_eq_ok.mp h'))

theorem decode_withEnd (h : IsLine line) :
    Utf8.decode (encodeAll (withEnd line)) = .ok (withEnd line) := by
  apply Utf8.decode_encodeAll
  exact List.forall_mem_append.mpr ⟨h.isScalar, by decide⟩

/-- Whole lines come before the lines behind them. -/
theorem IsWhole.exists_lines (h : IsWhole before) :
    ∃ lines, ∀ after u, Utf8.decode after = .ok u →
    linesOf (before ++ after) = lines ++ linesOf after := by
  obtain ⟨t, hdecode, rfl | ⟨start, rfl⟩⟩ := h
  · refine ⟨[], fun after u hafter => ?_⟩
    rw [linesOf_of_decode (decode_append hdecode hafter), linesOf_of_decode hafter]
    rfl
  · obtain ⟨start', hstart⟩ := Text.exists_normalizeNewlines_concat start
    refine ⟨Text.splitOn start' '\n', fun after u hafter => ?_⟩
    have hlast : (start ++ [CodePoint.ofChar '\n']).getLast? ≠ some (CodePoint.ofChar '\r') := by
      rw [List.getLast?_concat]
      decide
    rw [linesOf_of_decode (decode_append hdecode hafter), linesOf_of_decode hafter,
      Text.normalizeNewlines_append_of_getLast? hlast, hstart, List.append_assoc,
        List.singleton_append,
      Text.splitOn_append_cons]

theorem linesOf_line_append (h : IsLine line) {u : Text} (hafter : Utf8.decode after = .ok u) :
    linesOf (encodeAll (withEnd line) ++ after) = line :: linesOf after := by
  have hlast : (withEnd line).getLast? ≠ some (CodePoint.ofChar '\r') := by
    rw [withEnd, List.getLast?_concat]
    decide
  have hreturn : CodePoint.ofChar '\r' ∉ withEnd line := by
    rw [withEnd, List.mem_append, not_or]
    exact ⟨h.noReturn, by decide⟩
  rw [linesOf_of_decode (decode_append (decode_withEnd h) hafter), linesOf_of_decode hafter,
    Text.normalizeNewlines_append_of_getLast? hlast, Text.normalizeNewlines_of_notMem hreturn,
      withEnd, List.append_assoc,
    List.singleton_append, Text.splitOn_append_cons, Text.splitOn_of_notMem h.noFeed,
      List.singleton_append]

section

variable [NestingLimits]

theorem entriesOn_append (above below : List Text) : entriesOn filters (above ++ below) =
    (do .ok ((← entriesOn filters above) ++ (← entriesOn filters below))) := by
  unfold entriesOn
  rw [List.mapM_append]
  cases above.mapM (entryOn? filters) with
  | error f => rfl
  | ok founds =>
    cases below.mapM (entryOn? filters) with
    | error f => rfl
    | ok others => exact congrArg Except.ok (List.filterMap_append ..)

theorem entriesOn_cons_of_isDamaged (h : IsDamaged line) (below : List Text) :
    entriesOn filters (line :: below) = entriesOn filters below := by
  unfold entriesOn
  rw [List.mapM_cons, entryOn?_of_isDamaged h]
  cases below.mapM (entryOn? filters) <;> rfl

/-- A damaged line between the lines of a file. -/
theorem entriesIn_insert (hbefore : IsWhole before) {u : Text} (hafter : Utf8.decode after = .ok u)
    (hline : IsLine line) (h : IsDamaged line) :
    entriesIn filters (before ++ (encodeAll (withEnd line) ++ after)) =
      entriesIn filters (before ++ after) := by
  obtain ⟨lines, hlines⟩ := hbefore.exists_lines
  obtain ⟨t, hdecode, -⟩ := hbefore
  have hwith := decode_append (decode_withEnd hline) hafter
  rw [entriesIn_of_decode (decode_append hdecode hwith),
    entriesIn_of_decode (decode_append hdecode hafter),
    hlines _ _ hwith, hlines _ _ hafter, linesOf_line_append hline hafter, entriesOn_append,
      entriesOn_append,
    entriesOn_cons_of_isDamaged h]

end

theorem linesOf_line (h : IsLine line) : linesOf (encodeAll line) = [line] := by
  rw [linesOf_of_decode (Utf8.decode_encodeAll h.isScalar),
    Text.normalizeNewlines_of_notMem h.noReturn,
    Text.splitOn_of_notMem h.noFeed]

section

variable [NestingLimits]

/-- A damaged line behind all others, without an end. -/
theorem entriesIn_torn (hbefore : IsWhole before) (hline : IsLine line) (h : IsDamaged line) :
    entriesIn filters (before ++ encodeAll line) = entriesIn filters before := by
  have hblank : IsDamaged [] := ⟨_, _, rfl⟩
  obtain ⟨lines, hlines⟩ := hbefore.exists_lines
  obtain ⟨t, hdecode, -⟩ := hbefore
  have htorn := Utf8.decode_encodeAll hline.isScalar
  have hwhole : linesOf before = lines ++ [[]] := by
    rw [← List.append_nil before, hlines [] [] rfl]
    rfl
  rw [entriesIn_of_decode (decode_append hdecode htorn), entriesIn_of_decode hdecode,
    hlines _ _ htorn, hwhole,
    linesOf_line hline, entriesOn_append, entriesOn_append, entriesOn_cons_of_isDamaged h,
      entriesOn_cons_of_isDamaged hblank]

/-! ## Trees that differ in one file -/

/-- Two contents of a file with the same entries make no difference. -/
theorem entriesOf_insert (h : entriesIn q.filters bytes = entriesIn q.filters bytes')
    (tree : FileTree) (place : List Text) (day : Date) :
    log.entriesOf q (tree.insert place (.file bytes)) day =
      log.entriesOf q (tree.insert place (.file bytes')) day := by
  have same := FileTree.sameNames_insert tree place bytes bytes'
  unfold entriesOf FileTree.find? FileTree.lookup
  rw [same.locate]
  cases FileTree.locate (tree.insert place (.file bytes')) (log.file q.category day) with
  | error f => rfl
  | ok other =>
    by_cases hsame : other = place
    · subst hsame
      by_cases habove : other <+: tree.here
      · simp [habove]
      · simpa [habove] using h
    · simp [hsame]

theorem walk_congr (h : ∀ day, log.entriesOf q tree day = log.entriesOf q tree' day)
    (first last : Date) (wanted : Nat) (found : List Json) :
    walk log q tree first last wanted found = walk log q tree' first last wanted found := by
  induction hn : last.number using Nat.strong_induction_on generalizing last wanted found with
  | _ n ih =>
    rw [walk, walk, h]
    split
    · rfl
    · split
      · rfl
      · simp only
        split
        · rfl
        · next earlier hprevious =>
          have hnumber := Date.number_previous? hprevious
          have hpositive := earlier.positive
          exact ih _ (by omega) _ _ _ rfl

theorem query_insert (h : entriesIn q.filters bytes = entriesIn q.filters bytes') (tree : FileTree)
    (place : List Text) :
    log.query today q (tree.insert place (.file bytes)) =
      log.query today q (tree.insert place (.file bytes')) := by
  unfold query
  simp only [walk_congr (entriesOf_insert h tree place)]

/-! ## Queries of files with damage -/

theorem exists_members_of_mem (hfilters : filters ≠ []) {lines : List Text} {entries : List Json}
    (h : entriesOn filters lines = .ok entries) {v : Json} (hv : v ∈ entries) :
    ∃ members, v = .object members := by
  have clear := exists_entriesOn_iff.mp ⟨entries, h⟩
  rw [entriesOn_eq_ok h, valuesOn] at hv
  obtain ⟨line, hline, hread⟩ := List.mem_filterMap.mp (List.mem_of_mem_filter hv)
  cases hvalue : Json.read line.strip with
  | error e =>
    rw [hvalue] at hread
    cases hread
  | ok w =>
    rw [hvalue] at hread
    cases hread
    cases v with
    | object members => exact ⟨members, rfl⟩
    | null | bool | int | float | text | list =>
      exact absurd (.noObject hfilters hvalue rfl) (clear line hline _)

theorem exists_members_of_entriesOf (hfilters : q.filters ≠ []) {day : Date} {entries : List Json}
    (h : log.entriesOf q tree day = .ok entries) :
    ∀ v ∈ entries, ∃ members, v = .object members := by
  intro v hv
  obtain ⟨entry, -, h⟩ := bind_eq_ok.mp h
  split at h
  · exact exists_members_of_mem hfilters (entriesIn_eq_ok h).2 hv
  · cases h
    cases hv

/-- What holds of the entries of every day holds of all that a walk finds. -/
theorem forall_mem_walk {P : Json → Prop}
    (hdays : ∀ day entries, log.entriesOf q tree day = .ok entries → ∀ v ∈ entries, P v)
    {last : Date} {wanted : Nat} {found result : List Json}
    (h : walk log q tree first last wanted found = .ok result) (hfound : ∀ v ∈ found, P v) :
    ∀ v ∈ result, P v := by
  induction hn : last.number using Nat.strong_induction_on generalizing last wanted found with
  | _ n ih =>
    rw [walk] at h
    split at h
    · cases h
      exact hfound
    · split at h
      · cases h
      · next entries hread =>
        simp only at h
        split at h
        · cases h
        · next earlier hprevious =>
          have hnumber := Date.number_previous? hprevious
          have hpositive := earlier.positive
          have htaken (v : Json) (hv : v ∈ entries.reverse.take wanted) : P v :=
            hdays last entries hread v (List.mem_reverse.mp (List.mem_of_mem_take hv))
          exact ih earlier.number (by omega) h (List.forall_mem_append.mpr ⟨hfound, htaken⟩) rfl

/-- A query of days behind the first one of the calendar ends in a fault just if it comes to a day
that cannot be read, which is one with a name that is too long, with bytes that stand for no text,
or with a line that obstructs. If it comes to none, it gives what is asked for as far as the limit
allows, and where members are asked for these are objects. Lines that are blank or no JSON never
change what comes of it. -/
theorem query_reads_around_damage (log : BuildLog) (tree : FileTree)
    (hfirst : firstDay q (q.last.getD today) = .ok first) (hone : 1 < first.number) :
    (∀ f, log.query today q tree = .error f ↔
      ∃ day ∈ q.span today, log.ComesTo q tree (q.last.getD today) q.limit.toNat day ∧
      log.entriesOf q tree day = .error f) ∧
    (∀ day, (∃ f, log.entriesOf q tree day = .error f) ↔ ¬ log.IsReadable q tree day) ∧
    (∀ found, log.query today q tree = .ok found →
      found = (log.answers today q tree).take q.limit.toNat ∧
      (q.filters ≠ [] → ∀ v ∈ found, ∃ members, v = .object members)) ∧
    (∀ place before line, IsWhole before → IsLine line → IsDamaged line →
      log.query today q (tree.insert place (.file (before ++ encodeAll line))) =
        log.query today q (tree.insert place (.file before)) ∧
      ∀ after u, Utf8.decode after = .ok u →
        log.query today q (tree.insert place (.file (before ++ (encodeAll (withEnd line) ++ after)))) =
          log.query today q (tree.insert place (.file (before ++ after)))) := by
  refine ⟨fun f => ?_, fun day => ?_, fun found h => ⟨query_eq_take h, fun hfilters => ?_⟩, ?_⟩
  · rw [query_eq_error_iff]
    constructor
    · rintro (h | ⟨_, -, day, hday, comes, ends⟩)
      · rw [hfirst] at h
        cases h
      · refine ⟨day, hday, comes, ?_⟩
        cases ends with
        | unreadable hread => exact hread
        | first hday' _ =>
          have hbounds := Date.mem_backTo.mp hday
          rw [← (firstDay_eq_ok.mp hfirst).1] at hbounds
          omega
    · rintro ⟨day, hday, comes, hread⟩
      exact .inr ⟨first, hfirst, day, hday, comes, .unreadable hread⟩
  · rw [← exists_entriesOf_iff]
    cases log.entriesOf q tree day <;> simp
  · obtain ⟨first, -, hwalk⟩ := query_eq_ok.mp h
    exact forall_mem_walk (fun day entries hread => exists_members_of_entriesOf hfilters hread)
      hwalk (List.forall_mem_nil _)
  · intro place before line hbefore hline hdamaged
    exact ⟨query_insert (entriesIn_torn hbefore hline hdamaged) tree place,
      fun after u hafter => query_insert (entriesIn_insert hbefore hafter hline hdamaged) tree place⟩

end

/-! A file with an entry, a line that breaks off and an empty one. -/

def damagedDay : Date := ⟨739685, by decide, by decide⟩

def entryLine : Bytes := encodeAll (withEnd r#"{"a":1}"#)

def damagedFile : List Text := (default.file LogEntry.builds damagedDay).place FileTree.empty.here

/-- A line that breaks off is as if it were not there. -/
theorem query_reads_around_broken_line :
    default.query damagedDay .default (FileTree.empty.insert damagedFile
      (.file (entryLine ++ encodeAll r#"{"a"#))) =
      default.query damagedDay .default (FileTree.empty.insert damagedFile (.file entryLine)) := by
  have whole : IsWhole entryLine :=
    ⟨_, decode_withEnd ⟨by decide, by decide, by decide⟩, .inr ⟨_, rfl⟩⟩
  have line : IsLine r#"{"a"# := ⟨by decide, by decide, by decide⟩
  have damaged : IsDamaged r#"{"a"# := ⟨_, _, rfl⟩
  have week : firstDay .default damagedDay = .ok ⟨739678, by decide, by decide⟩ := rfl
  obtain ⟨-, -, -, around⟩ := query_reads_around_damage default .empty week (by decide)
  exact (around damagedFile entryLine r#"{"a"# whole line damaged).1

def damagedTree (bytes : Bytes) : FileTree :=
  { FileTree.empty with
    entries := .ofList <|
      ((List.range 4).map fun n => (damagedFile.take (n + 1), FileEntry.directory)) ++
        [(damagedFile, .file bytes)] }

theorem query_unreadable [NestingLimits] (hspan : q.first = none ∧ q.last = none)
    (hlimit : 0 < q.limit) (htoday : 7 < today.number)
    (h : (log.entriesOf q tree today).isOk = false) : ∃ f, log.query today q tree = .error f := by
  cases hread : log.entriesOf q tree today with
  | ok entries =>
    rw [hread] at h
    cases h
  | error f =>
    have hbounded := today.bounded
    have hfirst : firstDay q today = .ok ⟨today.number - 7, by omega, by omega⟩ :=
      firstDay_eq_ok.mpr ⟨by rw [hspan.1]; rfl, fun _ => htoday⟩
    refine ⟨f, query_eq_error_iff.mpr (.inr ⟨_, by rw [hspan.2]; exact hfirst, today, ?_, ?_,
      .unreadable hread⟩)⟩
    · rw [LogQuery.span, hspan.1, hspan.2]
      exact Date.mem_backTo.mpr ⟨Nat.sub_le _ _, le_rfl⟩
    · rw [hspan.2]
      exact comesTo_last.mpr (by omega)

/-- The newest entry of the week is the last one of its last day. -/
theorem query_newest [NestingLimits] (hspan : q.first = none ∧ q.last = none) (hlimit : q.limit = 1)
    (htoday : 7 < today.number) (entries : List Json) {v : Json}
    (h : log.entriesOf q tree today = .ok (entries ++ [v])) : log.query today q tree = .ok [v] := by
  have hbounded := today.bounded
  have hfirst : firstDay q today = .ok ⟨today.number - 7, by omega, by omega⟩ :=
    firstDay_eq_ok.mpr ⟨by rw [hspan.1]; rfl, fun _ => htoday⟩
  apply query_eq_ok.mpr
  refine ⟨_, by rw [hspan.2]; exact hfirst, ?_⟩
  rw [hspan.2, hlimit, walk, if_neg (by simp only [Option.getD_none]; omega)]
  simp only [Option.getD_none, h, List.reverse_append, List.reverse_singleton,
    List.singleton_append]
  split
  · next hnone =>
    have hone := Date.previous?_eq_none.mp hnone
    omega
  · rw [walk, if_pos (.inr rfl)]
    rfl

/-- Bytes that stand for no text and a line that is no object cost the other entries of the day, the
latter if members are asked for; otherwise it is an answer. -/
theorem damaged_lines_cost :
    (∃ f, default.query damagedDay .default (damagedTree (0xFF :: lineEnd :: entryLine)) = .error f) ∧
    (∃ f, default.query damagedDay { LogQuery.default with filters := [("a", .int 1)] }
      (damagedTree (encodeAll (withEnd "[1]") ++ entryLine)) = .error f) ∧
    ∃ v, default.query damagedDay { LogQuery.default with limit := 1 }
    (damagedTree (encodeAll (withEnd "[1]"))) = .ok [v] ∧
      v.asObject? = none := by
  refine ⟨query_unreadable ⟨rfl, rfl⟩ (by decide) (by decide) (by decide +kernel),
    query_unreadable ⟨rfl, rfl⟩ (by decide) (by decide) (by decide +kernel), ?_⟩
  have single :
    ((default.entriesOf { LogQuery.default with limit := 1 } (damagedTree (encodeAll (withEnd "[1]")))
      damagedDay).toOption.map fun entries => entries.map fun v => v.asObject?.isNone) =
        some [true] := by decide +kernel
  obtain ⟨entries, hentries, hnone⟩ := Option.map_eq_some_iff.mp single
  obtain ⟨v, rfl, hv⟩ := List.map_eq_singleton_iff.mp hnone
  have hread := toOption_eq_some.mp hentries
  exact ⟨v, query_newest ⟨rfl, rfl⟩ rfl (by decide) [] hread, Option.isNone_iff_eq_none.mp hv⟩

end BuildLog

end LocaleGen
