import LocaleGen.BuildLog.Query
import LocaleGen.Proofs.Calendar
import LocaleGen.Proofs.Incoming
import Mathlib

/-!
# What a query answers

`BuildLog.answers` says what is asked for: day by day from the latest one to the earliest one, the
values on the lines of the day that have the given members, from the bottom of the file up. A query
that returns gives the beginning of it, as much as the limit allows (`BuildLog.query_computes`).

`BuildLog.EndsAt` says on which day and in which fault the walk ends otherwise: a day that cannot be
read, or the first one of the calendar, behind which the walk looks for another
(`BuildLog.walk_eq_error_iff`). So no other span of days leads out of the calendar
(`BuildLog.query_leaves_calendar_iff`).
-/

namespace LocaleGen

/-- Whether a value has the given members, where an absent one counts as null. -/
def Json.hasAll (filters : List (Text × Json)) (v : Json) : Bool :=
  filters.all fun f => ((v.member? f.1).getD .null).agrees f.2

def LogQuery.span (q : LogQuery) (today : Date) : List Date :=
  let last := q.last.getD today
  last.backTo ((q.first.map Date.number).getD (last.number - 7))

namespace BuildLog

/-! ## What is in a file -/

def linesOf (bytes : Bytes) : List Text :=
  match Utf8.decode bytes with
  | .ok t => Text.splitOn t.normalizeNewlines '\n'
  | .error _ => []

section

variable [NestingLimits]

def valuesOn (lines : List Text) : List Json :=
  lines.filterMap fun line => (Json.read line.strip).toOption

def contentOf (log : BuildLog) (category : Text) (tree : FileTree) (day : Date) : Bytes :=
  match tree.find? (log.file category day) with
  | .ok (some (.file bytes)) => bytes
  | _ => []

def matching (log : BuildLog) (q : LogQuery) (tree : FileTree) (day : Date) : List Json :=
  (valuesOn (linesOf (log.contentOf q.category tree day))).filter (Json.hasAll q.filters)

def answers (log : BuildLog) (today : Date) (q : LogQuery) (tree : FileTree) : List Json :=
  (q.span today).flatMap fun day => (log.matching q tree day).reverse

/-! ## One line -/

def IsDamaged (line : Text) : Prop :=
  ∃ problem place, Json.read line.strip = .error (.malformed problem place)

/-- What ends the reading of a file at a line: a limit that its JSON exceeds, or a value without
members, if members are asked for. -/
inductive Obstructs (filters : List (Text × Json)) (line : Text) : Fault → Prop
  | tooDeep {inList : Bool} : Json.read line.strip = .error (.tooDeep inList) →
      Obstructs filters line (.tooDeep inList)
  | tooManyDigits {count : Nat} : Json.read line.strip = .error (.tooManyDigits count) →
      Obstructs filters line (.tooManyDigits count)
  | noObject {v : Json} : filters ≠ [] → Json.read line.strip = .ok v → v.asObject? = none →
      Obstructs filters line (.noMember (kindName v) "get")

end

section

variable {filters : List (Text × Json)} {line : Text} {lines : List Text}
    {bytes : Bytes} {f : Fault}

theorem passes_eq_ok {v : Json} {b : Bool} (h : passes filters v = .ok b) :
    b = v.hasAll filters := by
  cases filters with
  | nil =>
    cases h
    rfl
  | cons first rest =>
    cases v with
    | object members =>
      cases h
      rfl
    | _ => cases h

theorem passes_eq_error_iff {v : Json} :
    passes filters v = .error f ↔ filters ≠ [] ∧ v.asObject? = none ∧
    f = .noMember (kindName v) "get" := by
  cases filters with
  | nil => simp [passes]
  | cons first rest => cases v <;> simp [passes, Json.asObject?, eq_comm]

variable [NestingLimits]

/-- A blank line is treated like one that is no JSON. -/
theorem entryOn?_eq (filters : List (Text × Json)) (line : Text) :
    entryOn? filters line =
      match Json.read line.strip with
      | .error (.malformed ..) => .ok none
      | .error e => .error e.fault
      | .ok v => (do .ok (if ← passes filters v then some v else none)) := by
  unfold entryOn?
  simp only
  cases line.strip with
  | nil => rfl
  | cons c rest => rfl

theorem entryOn?_eq_error_iff : entryOn? filters line = .error f ↔ Obstructs filters line f := by
  rw [entryOn?_eq]
  constructor
  · intro h
    split at h
    · cases h
    · next e malformed hread =>
      cases h
      cases e with
      | malformed problem place => exact absurd rfl (malformed problem place)
      | tooDeep inList => exact .tooDeep hread
      | tooManyDigits count => exact .tooManyDigits hread
    · next v hread =>
      rcases bind_eq_error.mp h with h | ⟨b, -, h⟩
      · obtain ⟨hfilters, hobject, rfl⟩ := passes_eq_error_iff.mp h
        exact .noObject hfilters hread hobject
      · cases h
  · intro h
    cases h with
    | tooDeep hread => rw [hread]; rfl
    | tooManyDigits hread => rw [hread]; rfl
    | noObject hfilters hread hobject =>
      rw [hread]
      exact bind_eq_error.mpr (.inl (passes_eq_error_iff.mpr ⟨hfilters, hobject, rfl⟩))

theorem entryOn?_eq_ok {found : Option Json} (h : entryOn? filters line = .ok found) :
    found = (Json.read line.strip).toOption.filter (Json.hasAll filters) := by
  rw [entryOn?_eq] at h
  split at h
  · next hread =>
    cases h
    rw [hread]
    rfl
  · cases h
  · next v hread =>
    obtain ⟨b, hb, h⟩ := bind_eq_ok.mp h
    cases h
    rw [hread, passes_eq_ok hb, Except.toOption, Option.filter_some]

theorem entryOn?_of_isDamaged (h : IsDamaged line) : entryOn? filters line = .ok none := by
  obtain ⟨problem, place, hread⟩ := h
  rw [entryOn?_eq, hread]

/-! ## One file -/

theorem entriesOn_eq_ok {entries : List Json} (h : entriesOn filters lines = .ok entries) :
    entries = (valuesOn lines).filter (Json.hasAll filters) := by
  obtain ⟨founds, hfounds, hentries⟩ := bind_eq_ok.mp h
  clear h
  cases hentries
  replace hfounds := mapM_eq_ok.mp hfounds
  induction hfounds with
  | nil => rfl
  | @cons line found lines founds hfound _ ih =>
    rw [valuesOn, List.filterMap_cons, List.filterMap_cons, ih, entryOn?_eq_ok hfound]
    cases (Json.read line.strip).toOption with
    | none => rfl
    | some v =>
      rw [Option.filter_some]
      by_cases has : v.hasAll filters = true
      · rw [if_pos has, List.filter_cons_of_pos has]
        rfl
      · rw [if_neg has, List.filter_cons_of_neg has]
        rfl

theorem entriesOn_eq_error (h : entriesOn filters lines = .error f) :
    ∃ line ∈ lines, Obstructs filters line f := by
  rcases bind_eq_error.mp h with h | ⟨founds, -, h⟩
  · obtain ⟨line, hline, hfault⟩ := exists_of_mapM_eq_error h
    exact ⟨line, hline, entryOn?_eq_error_iff.mp hfault⟩
  · cases h

/-- Lines are read to the end just if none of them obstructs. -/
theorem exists_entriesOn_iff :
    (∃ entries, entriesOn filters lines = .ok entries) ↔
    ∀ line ∈ lines, ∀ f, ¬ Obstructs filters line f := by
  constructor
  · rintro ⟨entries, h⟩ line hline f obstructs
    obtain ⟨founds, hfounds, -⟩ := bind_eq_ok.mp h
    obtain ⟨found, -, hfound⟩ := exists_of_mem_left (mapM_eq_ok.mp hfounds) hline
    rw [entryOn?_eq_error_iff.mpr obstructs] at hfound
    cases hfound
  · intro clear
    cases h : entriesOn filters lines with
    | ok entries => exact ⟨entries, rfl⟩
    | error f =>
      obtain ⟨line, hline, obstructs⟩ := entriesOn_eq_error h
      exact absurd obstructs (clear line hline f)

theorem entriesIn_of_decode {t : Text} (h : Utf8.decode bytes = .ok t) :
    entriesIn filters bytes = entriesOn filters (linesOf bytes) := by
  unfold entriesIn linesOf
  rw [Incoming.lines_of_decode h, h]

/-- Bytes that stand for no text cannot be read to the end. -/
theorem entriesIn_of_fault (filters : List (Text × Json)) {fault : Utf8.Fault}
    (h : Utf8.decode bytes = .error fault) :
    ∃ f, entriesIn filters bytes = .error f ∧ ((∃ fault, f = .undecodable fault) ∨
      ∃ line, Obstructs filters line f) := by
  obtain ⟨fault', hfault⟩ := Incoming.exists_fault h
  unfold entriesIn
  simp only [hfault]
  cases hlines : entriesOn filters (Text.splitOn (Incoming.lines bytes).1 '\n').dropLast with
  | ok entries => exact ⟨_, rfl, .inl ⟨fault', rfl⟩⟩
  | error f =>
    obtain ⟨line, -, obstructs⟩ := entriesOn_eq_error hlines
    exact ⟨f, rfl, .inr ⟨line, obstructs⟩⟩

theorem entriesIn_eq_ok {entries : List Json} (h : entriesIn filters bytes = .ok entries) :
    (∃ t, Utf8.decode bytes = .ok t) ∧ entriesOn filters (linesOf bytes) = .ok entries := by
  cases hdecode : Utf8.decode bytes with
  | ok t => exact ⟨⟨t, rfl⟩, entriesIn_of_decode hdecode ▸ h⟩
  | error fault =>
    obtain ⟨f, hf, -⟩ := entriesIn_of_fault filters hdecode
    rw [h] at hf
    cases hf

end

/-! ## One day -/

section

variable {log : BuildLog} {q : LogQuery} {tree : FileTree} {today day first last : Date}
    {wanted : Nat} {f : Fault} {found result : List Json}

section

variable [NestingLimits]

theorem valuesOn_linesOf_nil : valuesOn (linesOf []) = [] := rfl

theorem entriesOf_eq_ok {entries : List Json} (h : log.entriesOf q tree day = .ok entries) :
    entries = log.matching q tree day := by
  obtain ⟨entry, hfind, h⟩ := bind_eq_ok.mp h
  unfold matching contentOf
  rw [hfind]
  split at h
  · next bytes => exact entriesOn_eq_ok (entriesIn_eq_ok h).2
  · next other =>
    cases h
    split
    · next bytes hfile =>
      cases hfile
      exact absurd rfl (other bytes)
    · rw [valuesOn_linesOf_nil]
      rfl

theorem entriesOf_ne_outsideCalendar : log.entriesOf q tree day ≠ .error .outsideCalendar := by
  intro h
  have clear (line : Text) : ¬ Obstructs q.filters line .outsideCalendar := by
    intro obstructs
    cases obstructs
  rcases bind_eq_error.mp h with hfind | ⟨entry, -, h⟩
  · unfold FileTree.find? at hfind
    split at hfind <;> cases hfind
  · split at h
    · next bytes =>
      cases hdecode : Utf8.decode bytes with
      | ok t =>
        rw [entriesIn_of_decode hdecode] at h
        obtain ⟨line, -, obstructs⟩ := entriesOn_eq_error h
        exact clear line obstructs
      | error fault =>
        obtain ⟨f, hf, ⟨fault', rfl⟩ | ⟨line, obstructs⟩⟩ := entriesIn_of_fault q.filters hdecode
        · rw [h] at hf
          cases hf
        · rw [h] at hf
          cases hf
          exact clear line obstructs
    · cases h

/-- A day can be read if one can look for its file, the bytes stand for a text and no line
obstructs. -/
structure IsReadable (log : BuildLog) (q : LogQuery) (tree : FileTree) (day : Date) : Prop where
  path : ∃ entry, tree.find? (log.file q.category day) = .ok entry
  decodes : ∃ t, Utf8.decode (log.contentOf q.category tree day) = .ok t
  lines : ∀ line ∈ linesOf (log.contentOf q.category tree day), ∀ f, ¬ Obstructs q.filters line f

theorem exists_entriesOf_iff : (∃ entries, log.entriesOf q tree day = .ok entries) ↔
    log.IsReadable q tree day := by
  constructor
  · rintro ⟨entries, h⟩
    obtain ⟨entry, hfind, h⟩ := bind_eq_ok.mp h
    have hcontent (hnone : ∀ bytes, entry ≠ some (.file bytes)) :
        log.contentOf q.category tree day = [] := by
      unfold contentOf
      rw [hfind]
      split
      · next bytes hfile =>
        cases hfile
        exact absurd rfl (hnone bytes)
      · rfl
    split at h
    · next bytes =>
      have hcontent : log.contentOf q.category tree day = bytes := by
        rw [contentOf, hfind]
      obtain ⟨hdecode, hlines⟩ := entriesIn_eq_ok h
      rw [← hcontent] at hdecode hlines
      exact ⟨⟨_, hfind⟩, hdecode, exists_entriesOn_iff.mp ⟨entries, hlines⟩⟩
    · next other =>
      have hempty := hcontent fun bytes hfile => other bytes hfile
      exact ⟨⟨_, hfind⟩, hempty ▸ ⟨[], rfl⟩, hempty ▸ exists_entriesOn_iff.mp ⟨[], rfl⟩⟩
  · rintro ⟨⟨entry, hfind⟩, ⟨t, hdecode⟩, hlines⟩
    unfold contentOf at hdecode hlines
    rw [hfind] at hdecode hlines
    unfold entriesOf
    rw [hfind, ok_bind]
    split
    · rw [entriesIn_of_decode hdecode]
      exact exists_entriesOn_iff.mpr hlines
    · exact ⟨[], rfl⟩

/-- A file that consists of objects and of lines that are blank or no JSON. -/
structure IsOrderly (bytes : Bytes) : Prop where
  decodes : ∃ t, Utf8.decode bytes = .ok t
  lines : ∀ line ∈ linesOf bytes, IsDamaged line ∨ ∃ members,
    Json.read line.strip = .ok (.object members)

theorem IsOrderly.not_obstructs {bytes : Bytes} (h : IsOrderly bytes) {line : Text}
    (hline : line ∈ linesOf bytes) {filters : List (Text × Json)} : ¬ Obstructs filters line f := by
  intro obstructs
  obtain ⟨problem, place, hread⟩ | ⟨members, hread⟩ := h.lines line hline
  · cases obstructs with
    | tooDeep hread' | tooManyDigits hread' | noObject _ hread' =>
      rw [hread] at hread'; cases hread'
  · cases obstructs with
    | tooDeep hread' | tooManyDigits hread' => rw [hread] at hread'; cases hread'
    | noObject _ hread' hobject =>
      rw [hread] at hread'
      cases hread'
      cases hobject

/-! ## From day to day -/

/-- The entries that a walk passes between two days, the latest day first. -/
def between (log : BuildLog) (q : LogQuery) (tree : FileTree) (last : Date) (first : Nat) :
    List Json :=
  (last.backTo first).flatMap fun day => (log.matching q tree day).reverse

/-- A walk comes to a day if the later ones can be read and do not have as many entries as are
wanted. -/
structure ComesTo (log : BuildLog) (q : LogQuery) (tree : FileTree) (last : Date) (wanted : Nat)
    (day : Date) : Prop where
  reads : ∀ later ∈ last.backTo (day.number + 1), ∃ entries,
    log.entriesOf q tree later = .ok entries
  fewer : (log.between q tree last (day.number + 1)).length < wanted

/-- A walk ends in a fault at a day that cannot be read, or at the first day of the calendar, behind
which there is no other. -/
inductive EndsAt (log : BuildLog) (q : LogQuery) (tree : FileTree) (day : Date) : Fault → Prop
  | unreadable {f : Fault} : log.entriesOf q tree day = .error f → EndsAt log q tree day f
  | first {entries : List Json} : day.number = 1 → log.entriesOf q tree day = .ok entries →
      EndsAt log q tree day .outsideCalendar

theorem between_cons {earlier : Date} {bound : Nat} (h : bound ≤ last.number)
    (hprevious : last.previous? = some earlier) :
    log.between q tree last bound = (log.matching q tree last).reverse ++
      log.between q tree earlier bound := by
  rw [between, Date.backTo_cons h hprevious, List.flatMap_cons, between]

theorem comesTo_last : log.ComesTo q tree last wanted last ↔ 0 < wanted := by
  have hnone := Date.backTo_eq_nil (Nat.lt_succ_self last.number)
  constructor
  · intro h
    have hfewer := h.fewer
    rwa [between, hnone] at hfewer
  · intro h
    refine ⟨?_, ?_⟩
    · rw [hnone]
      exact List.forall_mem_nil _
    · rwa [between, hnone]

/-- A walk that has gone on comes to the days that it comes to from the day before, with less that
is wanted. -/
theorem comesTo_earlier {earlier : Date} {entries : List Json}
    (hprevious : last.previous? = some earlier) (hday : day.number < last.number)
    (hread : log.entriesOf q tree last = .ok entries) :
    log.ComesTo q tree last wanted day ↔
      log.ComesTo q tree earlier (wanted - (entries.reverse.take wanted).length) day := by
  have hlength : (log.between q tree last (day.number + 1)).length =
      entries.length + (log.between q tree earlier (day.number + 1)).length := by
    rw [between_cons hday hprevious, List.length_append, List.length_reverse, entriesOf_eq_ok hread]
  have htaken : (entries.reverse.take wanted).length = min wanted entries.length := by
    rw [List.length_take, List.length_reverse]
  constructor
  · intro h
    have hfewer := h.fewer
    refine ⟨fun later hlater => h.reads later ?_, by omega⟩
    rw [Date.backTo_cons hday hprevious]
    exact List.mem_cons_of_mem _ hlater
  · intro h
    have hfewer := h.fewer
    refine ⟨?_, by omega⟩
    rw [Date.backTo_cons hday hprevious]
    exact List.forall_mem_cons.mpr ⟨⟨entries, hread⟩, h.reads⟩

/-- A walk that returns has found the beginning of what is asked for. -/
theorem walk_eq_ok (h : walk log q tree first last wanted found = .ok result) :
    result = found ++ (log.between q tree last first.number).take wanted := by
  induction hn : last.number using Nat.strong_induction_on generalizing last wanted found with
  | _ n ih =>
    rw [walk] at h
    split at h
    · next hend =>
      cases h
      rcases hend with hbefore | rfl
      · rw [between, Date.backTo_eq_nil hbefore, List.flatMap_nil, List.take_nil, List.append_nil]
      · rw [List.take_zero, List.append_nil]
    · next hend =>
      have hfirst : first.number ≤ last.number := by omega
      split at h
      · cases h
      · next entries hread =>
        simp only at h
        split at h
        · cases h
        · next earlier hprevious =>
          have hnumber := Date.number_previous? hprevious
          have hpositive := earlier.positive
          have hrest : wanted - min wanted entries.reverse.length =
            wanted - entries.reverse.length := by omega
          rw [ih earlier.number (by omega) h rfl, between_cons hfirst hprevious, List.length_take,
            hrest, List.append_assoc,
            List.take_append, entriesOf_eq_ok hread]

theorem endsAt_of_error {fault : Fault} (hread : log.entriesOf q tree day = .error fault) :
    log.EndsAt q tree day f ↔ fault = f := by
  constructor
  · intro ends
    cases ends with
    | unreadable hread' => exact Except.error.inj (hread.symm.trans hread')
    | first _ hread' => rw [hread] at hread'; cases hread'
  · rintro rfl
    exact .unreadable hread

theorem endsAt_of_ok {entries : List Json} (hread : log.entriesOf q tree day = .ok entries) :
    log.EndsAt q tree day f ↔ day.previous? = none ∧ f = .outsideCalendar := by
  constructor
  · intro ends
    cases ends with
    | unreadable hread' => rw [hread] at hread'; cases hread'
    | first hone _ => exact ⟨Date.previous?_eq_none.mpr hone, rfl⟩
  · rintro ⟨hnone, rfl⟩
    exact .first (Date.previous?_eq_none.mp hnone) hread

/-- A walk that goes on ends at its first day, or after it at a day that it comes to from the day
before. -/
theorem exists_endsAt_iff {bound : Nat} (hbound : bound ≤ last.number) (hwanted : 0 < wanted) :
    (∃ day ∈ last.backTo bound, log.ComesTo q tree last wanted day ∧ log.EndsAt q tree day f) ↔
      log.EndsAt q tree last f ∨ ∃ entries earlier,
      log.entriesOf q tree last = .ok entries ∧ last.previous? = some earlier ∧
        ∃ day ∈ earlier.backTo bound,
        log.ComesTo q tree earlier (wanted - (entries.reverse.take wanted).length) day ∧
          log.EndsAt q tree day f := by
  constructor
  · rintro ⟨day, hday, comes, ends⟩
    have hbounds := Date.mem_backTo.mp hday
    by_cases hsame : day = last
    · exact .inl (hsame ▸ ends)
    · have hlt : day.number < last.number :=
        lt_of_le_of_ne hbounds.2 fun heq => hsame (Date.ext_number heq)
      obtain ⟨entries, hread⟩ := comes.reads last (Date.mem_backTo.mpr ⟨hlt, le_rfl⟩)
      cases hprevious : last.previous? with
      | none =>
        have hone := Date.previous?_eq_none.mp hprevious
        have hpositive := day.positive
        omega
      | some earlier =>
        have hnumber := Date.number_previous? hprevious
        exact .inr ⟨entries, earlier, hread, rfl, day, Date.mem_backTo.mpr ⟨hbounds.1, by omega⟩,
          (comesTo_earlier hprevious hlt hread).mp comes, ends⟩
  · rintro (ends | ⟨entries, earlier, hread, hprevious, day, hday, comes, ends⟩)
    · exact ⟨last, Date.mem_backTo.mpr ⟨hbound, le_rfl⟩, comesTo_last.mpr hwanted, ends⟩
    · have hbounds := Date.mem_backTo.mp hday
      have hnumber := Date.number_previous? hprevious
      have hpositive := earlier.positive
      exact ⟨day, Date.mem_backTo.mpr ⟨hbounds.1, by omega⟩,
        (comesTo_earlier hprevious (by omega) hread).mpr comes, ends⟩

theorem walk_eq_error_iff : walk log q tree first last wanted found = .error f ↔
    ∃ day ∈ last.backTo first.number, log.ComesTo q tree last wanted day ∧
    log.EndsAt q tree day f := by
  induction hn : last.number using Nat.strong_induction_on generalizing last wanted found with
  | _ n ih =>
    rw [walk]
    split
    · next hend =>
      constructor
      · intro h
        cases h
      · rintro ⟨day, hday, comes, -⟩
        have hday := Date.mem_backTo.mp hday
        have hfewer := comes.fewer
        omega
    · next hend =>
      rw [exists_endsAt_iff (by omega) (by omega)]
      split
      · next fault hread =>
        rw [endsAt_of_error hread, hread]
        simp
      · next entries hread =>
        rw [endsAt_of_ok hread, hread]
        simp only
        split
        · next hprevious =>
          rw [hprevious]
          simp [eq_comm]
        · next earlier hprevious =>
          have hnumber := Date.number_previous? hprevious
          have hpositive := earlier.positive
          rw [ih earlier.number (by omega) rfl, hprevious]
          simp

theorem ComesTo.mono {fewer : Nat} (h : log.ComesTo q tree last fewer day) (hle : fewer ≤ wanted) :
    log.ComesTo q tree last wanted day :=
  ⟨h.reads, h.fewer.trans_le hle⟩

end

/-! ## The whole span -/

theorem firstDay_eq_ok : firstDay q last = .ok first ↔
    first.number = (q.first.map Date.number).getD (last.number - 7) ∧
    (q.first = none → 7 < last.number) := by
  unfold firstDay Date.back?
  have hpositive := first.positive
  cases q.first with
  | some day =>
    constructor
    · intro h
      cases h
      exact ⟨rfl, nofun⟩
    · rintro ⟨hnumber, -⟩
      rw [Date.ext_number hnumber]
  | none =>
    simp only [Option.map_none, Option.getD_none, forall_const]
    constructor
    · intro h
      split at h
      · next day hback =>
        cases h
        split at hback
        · next hlt => exact ⟨Date.ofNumber?_eq_some.mp hback, hlt⟩
        · cases hback
      · cases h
    · rintro ⟨hnumber, hlt⟩
      rw [if_pos hlt, Date.ofNumber?_eq_some.mpr hnumber]

theorem firstDay_eq_error :
    firstDay q last = .error f ↔ q.first = none ∧ last.number ≤ 7 ∧ f = .outsideCalendar := by
  unfold firstDay Date.back?
  cases q.first with
  | some day => simp
  | none =>
    by_cases hlt : 7 < last.number
    · have hback : Date.ofNumber? (last.number - 7) =
          some ⟨last.number - 7, by omega, by have := last.bounded; omega⟩ :=
        Date.ofNumber?_eq_some.mpr rfl
      rw [if_pos hlt, hback]
      simp only [reduceCtorEq, false_iff]
      omega
    · rw [if_neg hlt]
      simp only [Except.error.injEq, true_and]
      constructor
      · intro h
        exact ⟨by omega, h.symm⟩
      · intro h
        exact h.2.symm

section

variable [NestingLimits]

theorem query_eq_ok : log.query today q tree = .ok result ↔
    ∃ first, firstDay q (q.last.getD today) = .ok first ∧
    walk log q tree first (q.last.getD today) q.limit.toNat [] = .ok result :=
  bind_eq_ok

theorem query_eq_error_iff : log.query today q tree = .error f ↔
    firstDay q (q.last.getD today) = .error f ∨
    ∃ first, firstDay q (q.last.getD today) = .ok first ∧
      ∃ day ∈ q.span today, log.ComesTo q tree (q.last.getD today) q.limit.toNat day ∧
      log.EndsAt q tree day f := by
  refine bind_eq_error.trans (or_congr_right (exists_congr fun first => and_congr_right fun hfirst => ?_))
  rw [walk_eq_error_iff, LogQuery.span, (firstDay_eq_ok.mp hfirst).1]

/-- A query that returns gives the beginning of what is asked for. -/
theorem query_eq_take (h : log.query today q tree = .ok result) :
    result = (log.answers today q tree).take q.limit.toNat := by
  obtain ⟨first, hfirst, h⟩ := query_eq_ok.mp h
  rw [walk_eq_ok h, List.nil_append, between, answers, LogQuery.span, (firstDay_eq_ok.mp hfirst).1]

/-- A query with a smaller limit returns if the one with the larger limit does. -/
theorem exists_query_of_limit_le {limit : Int} (hlimit : limit ≤ q.limit)
    (h : log.query today q tree = .ok result) :
    ∃ found, log.query today { q with limit := limit } tree = .ok found := by
  cases hless : log.query today { q with limit := limit } tree with
  | ok found => exact ⟨found, rfl⟩
  | error f =>
    suffices log.query today q tree = .error f by
      rw [h] at this
      cases this
    apply query_eq_error_iff.mpr
    obtain hfirst | ⟨first, hfirst, day, hday, ⟨reads, fewer⟩, ends⟩ := query_eq_error_iff.mp hless
    · exact .inl hfirst
    · have comes : log.ComesTo q tree (q.last.getD today) limit.toNat day := ⟨reads, fewer⟩
      refine .inr ⟨first, hfirst, day, hday, comes.mono (by omega), ?_⟩
      cases ends with
      | unreadable hread => exact .unreadable hread
      | first hone hread => exact .first hone hread

/-- What is asked for with filters is what passes them of what is asked for without. -/
theorem answers_eq_filter (log : BuildLog) (today : Date) (q : LogQuery) (tree : FileTree) :
    log.answers today q tree = (log.answers today { q with filters := [] } tree).filter
      (Json.hasAll q.filters) := by
  have hday (day : Date) : log.matching { q with filters := [] } tree day =
      valuesOn (linesOf (log.contentOf q.category tree day)) :=
    List.filter_eq_self.mpr fun _ _ => rfl
  unfold answers
  rw [List.filter_flatMap]
  refine List.flatMap_congr fun day _ => ?_
  rw [hday, List.filter_reverse, matching]

/-- A smaller limit gives a beginning of the answer. -/
theorem query_of_limit_le {limit : Int} (hlimit : limit ≤ q.limit)
    (h : log.query today q tree = .ok result) :
    log.query today { q with limit := limit } tree = .ok (result.take limit.toNat) := by
  obtain ⟨less, hless⟩ := exists_query_of_limit_le hlimit h
  have hanswers : log.answers today { q with limit := limit } tree = log.answers today q tree := rfl
  rw [hless, query_eq_take hless, query_eq_take h, hanswers, List.take_take,
    min_eq_left (Int.toNat_le_toNat hlimit)]

/-- The filters might as well be applied to the answer without them, if its limit has cut nothing
off. -/
theorem query_eq_filter {all : List Json} {limit : Int} (h : log.query today q tree = .ok result)
    (hall : log.query today { q with filters := [], limit := limit } tree = .ok all)
    (hlength : all.length < limit) :
    result = (all.filter (Json.hasAll q.filters)).take q.limit.toNat := by
  replace hall : all = (log.answers today { q with filters := [] } tree).take limit.toNat :=
    query_eq_take hall
  have huncut : all = log.answers today { q with filters := [] } tree := by
    rw [hall, List.length_take] at hlength
    rw [hall, List.take_of_length_le (by omega)]
  rw [query_eq_take h, answers_eq_filter, huncut]

/-- An empty span gives nothing. -/
theorem query_of_empty (hfirst : q.first = some first)
    (hempty : (q.last.getD today).number < first.number) : log.query today q tree = .ok [] := by
  have hspan : q.span today = [] := by
    rw [LogQuery.span, hfirst]
    exact Date.backTo_eq_nil hempty
  cases h : log.query today q tree with
  | ok found => rw [query_eq_take h, answers, hspan, List.flatMap_nil, List.take_nil]
  | error f =>
    obtain h | ⟨_, _, day, hday, -⟩ := query_eq_error_iff.mp h
    · obtain ⟨hnone, -⟩ := firstDay_eq_error.mp h
      rw [hfirst] at hnone
      cases hnone
    · rw [hspan] at hday
      cases hday

/-- Files of objects and damaged lines are answered for, unless the walk would look behind the first
day of the calendar. -/
theorem exists_query (hfirst : firstDay q (q.last.getD today) = .ok first) (hone : 1 < first.number)
    (orderly : ∀ day ∈ q.span today, IsOrderly (log.contentOf q.category tree day) ∧
      ∃ entry, tree.find? (log.file q.category day) = .ok entry) :
    ∃ found, log.query today q tree = .ok found := by
  cases h : log.query today q tree with
  | ok found => exact ⟨found, rfl⟩
  | error f =>
    obtain h | ⟨_, _, day, hday, -, ends⟩ := query_eq_error_iff.mp h
    · rw [hfirst] at h
      cases h
    · obtain ⟨hfile, entry, hfind⟩ := orderly day hday
      obtain ⟨entries, hread⟩ := exists_entriesOf_iff.mpr
        ⟨⟨entry, hfind⟩, hfile.decodes, fun line hline f => hfile.not_obstructs hline⟩
      obtain ⟨hnone, -⟩ := (endsAt_of_ok hread).mp ends
      have hnumber := Date.previous?_eq_none.mp hnone
      have hbounds := Date.mem_backTo.mp hday
      rw [← (firstDay_eq_ok.mp hfirst).1] at hbounds
      omega

/-- A query computes what is asked for: day by day from the latest to the earliest one, from the
bottom of each file up, the values on the lines that have the given members, as many as the limit
allows. A smaller limit gives a beginning of it, and the filters might as well be applied to the
answer. An empty span gives nothing. Files of objects and damaged lines are answered for, unless the
walk would look behind the first day of the calendar. -/
theorem query_computes (log : BuildLog) (today : Date) (q : LogQuery) (tree : FileTree) :
    (∀ found, log.query today q tree = .ok found →
      found = (log.answers today q tree).take q.limit.toNat) ∧
    (∀ found limit, log.query today q tree = .ok found → limit ≤ q.limit →
      log.query today { q with limit := limit } tree = .ok (found.take limit.toNat)) ∧
    (∀ found all limit, log.query today q tree = .ok found →
      log.query today { q with filters := [], limit := limit } tree = .ok all → all.length < limit →
      found = (all.filter (Json.hasAll q.filters)).take q.limit.toNat) ∧
    (∀ first, q.first = some first → (q.last.getD
      today).number < first.number → log.query today q tree = .ok []) ∧
    (∀ first, firstDay q (q.last.getD today) = .ok first → 1 < first.number →
      (∀ day ∈ q.span today, IsOrderly (log.contentOf q.category tree day) ∧
        ∃ entry, tree.find? (log.file q.category day) = .ok entry) →
      ∃ found, log.query today q tree = .ok found) := by
  refine ⟨fun found h => query_eq_take h, ?_, ?_, ?_, ?_⟩
  · intro found limit h hlimit
    exact query_of_limit_le hlimit h
  · intro found all limit h hall hlength
    exact query_eq_filter h hall hlength
  · intro first hfirst hempty
    exact query_of_empty hfirst hempty
  · intro first hfirst hone orderly
    exact exists_query hfirst hone orderly

/-! ## The ends of the calendar -/

/-- A query leaves the calendar just if the week before its last day would begin before it, or if it
asks back to the first day of the calendar and comes to read it. -/
theorem query_leaves_calendar_iff : log.query today q tree = .error .outsideCalendar ↔
    (q.first = none ∧ (q.last.getD today).number ≤ 7) ∨
    ∃ first, firstDay q (q.last.getD today) = .ok first ∧ first.number = 1 ∧
      log.ComesTo q tree (q.last.getD today) q.limit.toNat
        first ∧ ∃ entries, log.entriesOf q tree first = .ok entries := by
  rw [query_eq_error_iff, firstDay_eq_error]
  refine or_congr (and_congr_right fun _ => and_iff_left rfl) (exists_congr
    fun first => and_congr_right fun hfirst => ?_)
  have hspan : q.span today = (q.last.getD today).backTo first.number := by
    rw [LogQuery.span, (firstDay_eq_ok.mp hfirst).1]
  rw [hspan]
  constructor
  · rintro ⟨day, hday, comes, ends⟩
    cases ends with
    | unreadable hread => exact absurd hread entriesOf_ne_outsideCalendar
    | first hone hread =>
      have hpositive := first.positive
      have hbounds := Date.mem_backTo.mp hday
      obtain rfl : day = first := Date.ext_number (by omega)
      exact ⟨hone, comes, _, hread⟩
  · rintro ⟨hone, comes, entries, hread⟩
    have hpositive := (q.last.getD today).positive
    exact ⟨first, Date.mem_backTo.mpr ⟨le_rfl, by omega⟩, comes, .first hone hread⟩

end

def earlyDay (day : Fin 5) : Date := ⟨day + 1, by omega, by omega⟩

def earlyDayQuery : LogQuery :=
  { LogQuery.default with first := some (earlyDay 0), last := some (earlyDay 0) }

/-- Asks for the entries of the week that ends with the fifth day of the calendar. -/
def earlyWeekQuery : LogQuery := { LogQuery.default with last := some (earlyDay 4) }

/-- Queries of the first days leave the calendar, even without a file. -/
theorem earlyQueries_leave_calendar :
    default.query (earlyDay 0) earlyDayQuery .empty = .error .outsideCalendar ∧
    default.query (earlyDay 0) earlyWeekQuery .empty = .error .outsideCalendar := by
  constructor
  · have hread : (default.entriesOf earlyDayQuery .empty (earlyDay 0)).isOk = true := by
      decide +kernel
    obtain ⟨entries, hread⟩ := isOk_eq_true.mp hread
    apply query_eq_error_iff.mpr
    exact .inr ⟨earlyDay 0, rfl, earlyDay 0, Date.mem_backTo.mpr ⟨le_rfl, le_rfl⟩,
      comesTo_last.mpr (by decide),
      .first rfl hread⟩
  · apply query_eq_error_iff.mpr
    exact .inl rfl

end

end BuildLog

end LocaleGen
