import LocaleGen.Proofs.BuildTrace
import LocaleGen.Proofs.DamagedLines
import LocaleGen.Proofs.JsonReading
import LocaleGen.Proofs.LogFiles
import Mathlib

/-!
# What is logged is read back

The line of an entry is read as the data of the entry (`BuildLog.read_render`), so a file that the
log has written holds the data of its entries, one for each line (`BuildLog.entriesIn_added`). The
files of the days are read from the latest one back and from the bottom up. Over entries in the
order of their days this is the reverse of the order in which they were written
(`Date.flatMap_backTo`), and a query gives them all: `BuildLog.log_round_trips`.

How deeply data may be nested to be written is up to the interpreter. What is nested more deeply is
refused, and leaves no part of it in the log.
-/

namespace LocaleGen

/-! ## Entries by their days -/

/-- A list in which nothing with a property stands behind something without it. -/
theorem filter_append_filter {α : Type} {p : α → Bool} {items : List α}
    (order : items.Pairwise fun a b => p b = true → p a = true) :
    items.filter p ++ items.filter (fun a => !p a) = items := by
  induction items with
  | nil => rfl
  | cons a items ih =>
    obtain ⟨hfirst, hrest⟩ := List.pairwise_cons.mp order
    by_cases ha : p a = true
    · rw [List.filter_cons_of_pos ha, List.filter_cons_of_neg (by simpa using ha),
        List.cons_append, ih hrest]
    · have hnone : items.filter p = [] :=
        List.filter_eq_nil_iff.mpr fun b hb hp => ha (hfirst b hb hp)
      have hall : items.filter (fun a => !p a) = items := List.filter_eq_self.mpr fun b hb => by
        simpa using fun hp => ha (hfirst b hb hp)
      rw [List.filter_cons_of_neg ha, List.filter_cons_of_pos (by simpa using ha), hnone, hall,
        List.nil_append]

theorem Date.filter_last {α : Type} {last : Date} {items : List (Date × α)}
    (latest : ∀ item ∈ items, item.1.number ≤ last.number) :
    items.filter (fun item => !decide (item.1.number < last.number)) = items.filter fun item =>
      item.1 = last := by
  refine List.filter_congr fun item hitem => ?_
  have hle := latest item hitem
  by_cases h : item.1 = last
  · simp [h]
  · have hne : item.1.number ≠ last.number := fun heq => h (Date.ext_number heq)
    simp only [h, decide_false, Bool.not_eq_false', decide_eq_true_eq]
    omega

theorem Date.filter_earlier {α : Type} {day last : Date} (hlt : day.number < last.number)
    (items : List (Date × α)) :
    (items.filter fun item => decide (item.1.number < last.number)).filter (fun item =>
      item.1 = day) =
      items.filter fun item => item.1 = day := by
  rw [List.filter_filter]
  refine List.filter_congr fun item _ => ?_
  by_cases h : item.1 = day
  · simp [h, hlt]
  · simp [h]

/-- What is in order of days, taken day by day from the latest one back and from the end of each. -/
theorem Date.flatMap_backTo {α β : Type} (f : Date × α → β) {first : Nat}
    (hfirst : 1 < first) {last : Date} {items : List (Date × α)}
    (order : items.Pairwise fun a b => a.1.number ≤ b.1.number)
    (span : ∀ item ∈ items, first ≤ item.1.number ∧ item.1.number ≤ last.number) :
    ((last.backTo first).flatMap fun day =>
      ((items.filter fun item => item.1 = day).map f).reverse) =
      (items.map f).reverse := by
  induction hn : last.number using Nat.strong_induction_on generalizing last items with
  | _ n ih =>
    by_cases hend : last.number < first
    · have hnil : items = [] := by
        apply List.eq_nil_iff_forall_not_mem.mpr
        intro item hitem
        have := span item hitem
        omega
      rw [Date.backTo_eq_nil hend, hnil]
      rfl
    · cases hprevious : last.previous? with
      | none =>
        have hone := Date.previous?_eq_none.mp hprevious
        omega
      | some earlier =>
        have hnumber := Date.number_previous? hprevious
        have hpositive := earlier.positive
        -- The items of the last day are behind all others.
        have hsplit := filter_append_filter (p := fun item => decide (item.1.number < last.number))
            (order.imp fun h hlt => by
          simp only [decide_eq_true_eq] at hlt ⊢
          omega)
        have hspan : ∀ item ∈ items.filter fun item => decide (item.1.number < last.number),
            first ≤ item.1.number ∧ item.1.number ≤ earlier.number := by
          intro item hitem
          obtain ⟨hmem, hlt⟩ := List.mem_filter.mp hitem
          have hspan := span item hmem
          have hlt := of_decide_eq_true hlt
          omega
        have hearlier := ih earlier.number (by omega) (order.filter _) hspan rfl
        rw [Date.backTo_cons (by omega) hprevious, List.flatMap_cons]
        conv_rhs => rw [← hsplit, List.map_append, List.reverse_append,
          Date.filter_last fun item h => (span item h).2, ← hearlier]
        congr 1
        refine List.flatMap_congr fun day hday => ?_
        have hday := Date.mem_backTo.mp hday
        rw [Date.filter_earlier (by omega)]

/-! ## Data that is written -/

namespace Json

/-- The first of two values is refused, or the second. -/
theorem orElse_refusal {room first more : Nat} {f : Fault} :
    ((if first ≤ room then none else some f).orElse fun _ => if more ≤ room then none else some f) =
      if max first more ≤ room then none else some f := by
  rw [if_congr (max_le_iff (a := first)) rfl rfl]
  by_cases h : first ≤ room <;> by_cases h' : more ≤ room <;> simp [h, h']

mutual

/-- What keeps data from being written is how deeply it is nested, and nothing else. -/
theorem refusal?_eq (v : Json) (hv : v.IsData) (room : Nat) :
    v.refusal? room = if v.nesting ≤ room then none else some .writtenTooDeep := by
  cases hv with
  | null | bool | text => rfl
  | int hlimit => exact if_neg (Nat.not_lt.mpr hlimit)
  | @list items hitems =>
    rw [nesting]
    cases room with
    | zero => rfl
    | succ room =>
      rw [refusal?, refusalOfItems?_eq items hitems room]
      exact if_congr (Nat.add_le_add_iff_right).symm rfl rfl
  | @object members _ _ hmembers =>
    rw [nesting]
    cases room with
    | zero => rfl
    | succ room =>
      rw [refusal?, refusalOfMembers?_eq members hmembers room]
      exact if_congr (Nat.add_le_add_iff_right).symm rfl rfl

theorem refusalOfItems?_eq (items : List Json) (hitems : ∀ v ∈ items, v.IsData) (room : Nat) :
    refusalOfItems? room items =
      if nestingOfItems items ≤ room then none else some .writtenTooDeep := by
  cases items with
  | nil => rfl
  | cons v rest =>
    obtain ⟨hv, hrest⟩ := List.forall_mem_cons.mp hitems
    rw [refusalOfItems?, nestingOfItems, refusal?_eq v hv room, refusalOfItems?_eq rest hrest room]
    exact orElse_refusal

theorem refusalOfMembers?_eq (members : List (Text × Json)) (hmembers : ∀ m ∈ members, m.2.IsData)
    (room : Nat) :
    refusalOfMembers? room members =
      if nestingOfMembers members ≤ room then none else some .writtenTooDeep := by
  match members with
  | [] => rfl
  | (_, v) :: rest =>
    obtain ⟨hv, hrest⟩ := List.forall_mem_cons.mp hmembers
    rw [refusalOfMembers?, nestingOfMembers, refusal?_eq v hv room,
      refusalOfMembers?_eq rest hrest room]
    exact orElse_refusal

end

end Json

namespace BuildLog

open FileTree

variable {log : BuildLog} {tree : FileTree} {home : List Text} {category : Text}
    {day today : Date} {e : LogEntry} {entries : List LogEntry} {writes : List (Date × LogEntry)}

/-! ## Lines -/

theorem isBlank_compact : Json.Style.IsBlank .compact :=
  ⟨List.forall_mem_nil _, List.forall_mem_nil _⟩

/-- The text of a value does not end with a blank. -/
theorem getLast?_write {v : Json} (hv : v.IsData) : ∀ c ∈ (v.write .compact).getLast?, c ≠ ' ' := by
  have hlast {t : Text} {last : CodePoint} (h : last ≠ ' ') :
      ∀ c ∈ (t ++ [last]).getLast?, c ≠ ' ' := by
    intro c hc
    rw [List.getLast?_concat] at hc
    cases hc
    exact h
  cases hv with
  | null => exact hlast (t := "nul") (by decide)
  | bool b =>
    rw [Json.write]
    cases b with
    | false => exact hlast (t := "fals") (by decide)
    | true => exact hlast (t := "tru") (by decide)
  | @int i hlimit =>
    intro c hc
    rw [Json.write] at hc
    have hmem := List.mem_of_getLast? hc
    cases i with
    | ofNat n => exact Json.ne_of_isDigit (Text.ofNat_isDigit n c hmem) (by decide)
    | negSucc n =>
      rcases List.mem_cons.mp hmem with rfl | hmem
      · decide
      · exact Json.ne_of_isDigit (Text.ofNat_isDigit (n + 1) c hmem) (by decide)
  | text ht =>
    rw [Json.write]
    exact hlast (by decide)
  | list hitems =>
    rw [Json.write]
    exact hlast (by decide)
  | object hnodup hnames hmembers =>
    rw [Json.write]
    exact hlast (by decide)

theorem dropWhile_of_head? {p : CodePoint → Bool} {t : Text} (h : ∀ c ∈ t.head?, p c = false) :
    t.dropWhile p = t := by
  cases t with
  | nil => rfl
  | cons c t =>
    rw [List.dropWhile_cons, h c rfl]
    rfl

theorem isBlank_of_isPlain {c : CodePoint} (h : c.isPlain = true) (hne : c ≠ ' ') :
    c.isBlank = false := by
  have hval : c.val ≠ 0x20 := fun heq => hne (CodePoint.eq_iff_val.mpr heq)
  simp [CodePoint.isPlain] at h
  simp [CodePoint.isBlank, CodePoint.isSpace, Unicode.whiteSpace, Unicode.inRanges]
  omega

theorem strip_render (h : e.data.IsData) : e.render.strip = e.render := by
  have hplain := e.isPlain_render
  have hstart : ∀ c ∈ e.render.head?, c.isBlank = false := by
    intro c hc
    obtain ⟨d, rest, hcons, hspace, -⟩ := (Json.spells_write isBlank_compact h).startsValue
    rw [LogEntry.render, hcons, List.head?_cons] at hc
    cases hc
    refine isBlank_of_isPlain (hplain _ ?_) ?_
    · rw [LogEntry.render, hcons]
      exact List.mem_cons_self
    · rintro rfl
      cases hspace
  have hend : ∀ c ∈ e.render.reverse.head?, c.isBlank = false := by
    intro c hc
    rw [List.head?_reverse] at hc
    exact isBlank_of_isPlain (hplain c (List.mem_of_getLast? hc)) (getLast?_write h c hc)
  rw [Text.strip, Text.trim, dropWhile_of_head? hstart, dropWhile_of_head? hend,
    List.reverse_reverse]

theorem isLine_render (e : LogEntry) : IsLine e.render := by
  have hplain := e.isPlain_render
  have hnotMem {c : CodePoint} (hc : c.isPlain = false) : c ∉ e.render := by
    intro hmem
    rw [hplain c hmem] at hc
    cases hc
  refine ⟨fun c hc => ?_, hnotMem (by decide), hnotMem (by decide)⟩
  have hc := hplain c hc
  simp [CodePoint.isPlain] at hc
  simp [CodePoint.isSurrogate]
  omega

theorem exists_decode_lines (entries : List LogEntry) :
    ∃ t, Utf8.decode (entries.flatMap line) = .ok t := by
  induction entries with
  | nil => exact ⟨[], rfl⟩
  | cons e entries ih =>
    obtain ⟨t, ht⟩ := ih
    exact ⟨_, decode_append (decode_withEnd (isLine_render e)) ht⟩

theorem linesOf_lines (entries : List LogEntry) :
    linesOf (entries.flatMap line) = entries.map LogEntry.render ++ [[]] := by
  induction entries with
  | nil => rfl
  | cons e entries ih =>
    obtain ⟨t, ht⟩ := exists_decode_lines entries
    rw [List.flatMap_cons, List.map_cons, List.cons_append, ← ih]
    exact linesOf_line_append (isLine_render e) ht

section

variable [NestingLimits]

/-! ## Lines that are read back -/

def IsWritable (e : LogEntry) : Prop := e.data.nesting ≤ NestingLimits.writing

instance (e : LogEntry) : Decidable (IsWritable e) := inferInstanceAs (Decidable (_ ≤ _))

/-- The data of an entry has no fractions and no integer with too many digits, and if it can be
written, it is not nested too deeply to be read. -/
structure IsReadBack (e : LogEntry) : Prop where
  isData : e.data.IsData
  readable : IsWritable e → e.data.nesting ≤ NestingLimits.reading

theorem IsReadBack.refusal? (h : IsReadBack e) :
    e.refusal? = if IsWritable e then none else some .writtenTooDeep :=
  Json.refusal?_eq _ h.isData _

theorem IsReadBack.added (h : IsReadBack e) : added e = if IsWritable e then line e else [] := by
  rw [BuildLog.added, h.refusal?]
  split <;> rfl

/-- What entries add are the lines of those that can be written. -/
theorem flatMap_added (h : ∀ e ∈ entries, IsReadBack e) :
    entries.flatMap added = (entries.filter IsWritable).flatMap line := by
  induction entries with
  | nil => rfl
  | cons e entries ih =>
    obtain ⟨he, hrest⟩ := List.forall_mem_cons.mp h
    rw [List.flatMap_cons, he.added, ih hrest]
    by_cases hwritable : IsWritable e
    · rw [if_pos hwritable, List.filter_cons_of_pos (by simpa using hwritable), List.flatMap_cons]
    · rw [if_neg hwritable, List.filter_cons_of_neg (by simpa using hwritable), List.nil_append]

theorem read_render (h : IsReadBack e) (hwritable : IsWritable e) :
    Json.read e.render.strip = .ok e.data := by
  rw [strip_render h.isData]
  exact Json.read_write isBlank_compact h.isData (h.readable hwritable)

/-- The lines of entries are read back from the top down. -/
theorem entriesIn_lines (h : ∀ e ∈ entries, IsReadBack e) (writable : ∀ e ∈ entries, IsWritable e) :
    entriesIn [] (entries.flatMap line) = .ok (entries.map LogEntry.data) := by
  obtain ⟨t, ht⟩ := exists_decode_lines entries
  have hblank : Json.read (Text.strip []) =
    .error (.malformed .expectingValue (Json.Place.after [])) := rfl
  have clear : ∀ written ∈ linesOf (entries.flatMap line), ∀ f, ¬ Obstructs [] written f := by
    rw [linesOf_lines, List.forall_mem_append, List.forall_mem_map]
    refine ⟨fun e he f obstructs => ?_, List.forall_mem_singleton.mpr fun f obstructs => ?_⟩
    · have hread := read_render (h e he) (writable e he)
      cases obstructs with
      | tooDeep hread' | tooManyDigits hread' => rw [hread] at hread'; cases hread'
      | noObject hfilters => exact hfilters rfl
    · cases obstructs with
      | tooDeep hread' | tooManyDigits hread' => rw [hblank] at hread'; cases hread'
      | noObject hfilters => exact hfilters rfl
  obtain ⟨found, hfound⟩ := exists_entriesOn_iff.mpr clear
  have hvalues : valuesOn (entries.map LogEntry.render) = entries.map LogEntry.data := by
    rw [valuesOn, List.filterMap_map, ← List.filterMap_eq_map]
    refine List.filterMap_congr fun e he => ?_
    rw [Function.comp_apply, read_render (h e he) (writable e he)]
    rfl
  have hnone : valuesOn [[]] = [] := rfl
  rw [entriesIn_of_decode ht, hfound, entriesOn_eq_ok hfound, linesOf_lines, valuesOn,
    List.filterMap_append, ← valuesOn,
    ← valuesOn, hvalues, hnone, List.append_nil]
  exact congrArg Except.ok (List.filter_eq_self.mpr fun _ _ => rfl)

theorem entriesIn_added (h : ∀ e ∈ entries, IsReadBack e) :
    entriesIn [] (entries.flatMap added) = .ok ((entries.filter IsWritable).map LogEntry.data) := by
  rw [flatMap_added h]
  exact entriesIn_lines (fun e he => h e (List.mem_of_mem_filter he)) fun e he =>
    of_decide_eq_true (List.mem_filter.mp he).2

/-! ## Entries that are written -/

def writeAll (log : BuildLog) (writes : List (Date × LogEntry)) (tree : FileTree) : FileTree :=
  writes.foldl (fun tree w => (log.write w.1 w.2 tree).1) tree

@[simp] theorem here_write (log : BuildLog) (day : Date) (e : LogEntry) (tree : FileTree) :
    (log.write day e tree).1.here = tree.here := (log.logged_write day e tree).spares.here

@[simp] theorem here_writeAll (log : BuildLog) (writes : List (Date × LogEntry)) (tree : FileTree) :
    (log.writeAll writes tree).here = tree.here := by
  induction writes generalizing tree with
  | nil => rfl
  | cons w writes ih => exact (ih _).trans (here_write _ _ _ _)

theorem write_congr {tree' : FileTree}
    (h : tree.makeParents (log.file e.category day) = tree'.makeParents (log.file e.category day)) :
    log.write day e tree = log.write day e tree' := by
  rw [write, write, h]

theorem Keeps.writeAll {before : List (Date × LogEntry)} (h : log.Keeps home tree before)
    (room : log.HasRoom) (names : ∀ w ∈ writes, IsFileName w.2.category) :
    log.Keeps home (log.writeAll writes tree) (before ++ writes) := by
  induction writes generalizing tree before with
  | nil => rwa [List.append_nil]
  | cons w writes ih =>
    obtain ⟨name, names⟩ := List.forall_mem_cons.mp names
    obtain ⟨made, tree', hmade, happend, hkeeps⟩ := h.write room name w.1
    have hwrite := (write_of_append hmade happend).1
    have hrest := ih hkeeps names
    rw [List.append_assoc, List.singleton_append] at hrest
    show log.Keeps home (log.writeAll writes (log.write w.1 w.2 tree).1) _
    rwa [hwrite]

namespace IsFresh

variable (fresh : log.IsFresh tree) (room : log.HasRoom)
    (names : ∀ w ∈ writes, IsFileName w.2.category)

include fresh room names

/-- After the first entry the log has its directory. -/
theorem exists_keeps (hwrites : writes ≠ []) :
    ∃ home, log.Keeps home (log.writeAll writes tree) writes := by
  obtain ⟨home, ready, keeps, same⟩ := fresh.exists_ready room
  obtain ⟨w, rest, rfl⟩ := List.exists_cons_of_ne_nil hwrites
  have hfirst : log.write w.1 w.2 tree = log.write w.1 w.2 ready :=
    write_congr (same _ w.1 (names w List.mem_cons_self)).2
  have hready : log.writeAll (w :: rest) tree = log.writeAll (w :: rest) ready := by
    show log.writeAll rest (log.write w.1 w.2 tree).1 =
      log.writeAll rest (log.write w.1 w.2 ready).1
    rw [hfirst]
  rw [hready]
  exact ⟨home, keeps.writeAll room names⟩

/-- After entries have been written the file of one more can be opened. -/
theorem exists_append (name : IsFileName e.category) (day : Date) :
    ∃ made tree', FileTree.makeParents (log.writeAll writes tree)
    (log.file e.category day) = (made, .ok ()) ∧
      made.append (log.file e.category day) (added e) = .ok tree' := by
  by_cases hwrites : writes = []
  · obtain ⟨home, ready, keeps, same⟩ := fresh.exists_ready room
    obtain ⟨made, tree', hmade, happend, -⟩ := keeps.write room name day
    rw [hwrites]
    exact ⟨made, tree', (same e.category day name).2.trans hmade, happend⟩
  · obtain ⟨home, keeps⟩ := fresh.exists_keeps room names hwrites
    obtain ⟨made, tree', hmade, happend, -⟩ := keeps.write room name day
    exact ⟨made, tree', hmade, happend⟩

/-- Every file of the log is found, and what is found is what its entries have added. -/
theorem find?_file (name : IsFileName category) (day : Date) :
    (log.writeAll writes tree).find? (log.file category day) =
      .ok ((grown none (writtenTo category day writes)).map .file) := by
  by_cases hwrites : writes = []
  · obtain ⟨home, ready, -, same⟩ := fresh.exists_ready room
    rw [hwrites]
    exact (same category day name).1
  · obtain ⟨home, keeps⟩ := fresh.exists_keeps room names hwrites
    exact keeps.find?_file room name day

end IsFresh

theorem entriesOf_writeAll (fresh : log.IsFresh tree) (room : log.HasRoom)
    (names : ∀ w ∈ writes, IsFileName w.2.category) (read : ∀ w ∈ writes, IsReadBack w.2)
    {q : LogQuery} (name : IsFileName q.category) (hfilters : q.filters = []) (day : Date) :
    log.entriesOf q (log.writeAll writes tree) day =
      .ok (((writtenTo q.category day writes).filter IsWritable).map LogEntry.data) := by
  have hread : ∀ e ∈ writtenTo q.category day writes, IsReadBack e := by
    intro e he
    obtain ⟨w, hw, rfl⟩ := List.mem_map.mp he
    exact read w (List.mem_of_mem_filter hw)
  unfold entriesOf
  rw [fresh.find?_file room names name day, hfilters]
  by_cases hnone : writtenTo q.category day writes = []
  · rw [hnone]
    rfl
  · rw [grown, if_neg hnone]
    exact entriesIn_added hread

def weekQuery (category : Text) (limit : Int) : LogQuery := ⟨category, none, none, [], limit⟩

/-- The data that such a query is about, in the order of the entries: it could be written, and not
longer than a week ago. -/
def weekData (category : Text) (today : Date) (writes : List (Date × LogEntry)) : List Json :=
  (writes.filter fun w => w.2.category = category ∧ IsWritable w.2 ∧ today.number - 7 ≤ w.1.number ∧
    w.1.number ≤ today.number).map fun w => w.2.data

section

variable (fresh : log.IsFresh tree) (room : log.HasRoom)
    (names : ∀ w ∈ writes, IsFileName w.2.category)

include fresh room names

/-- One more entry is a line at the end of its file, or is refused and adds nothing. -/
theorem exists_write_line (name : IsFileName e.category) (hread : IsReadBack e) (day : Date) :
    ∃ tree' file, log.write day e (log.writeAll writes tree) =
        (tree', if IsWritable e then .ok () else .error .writtenTooDeep) ∧
      (log.file e.category day).place tree.here = file ∧
      Spares {file} (log.writeAll writes tree) tree' ∧
      tree'.file? file =
        some (((log.writeAll writes tree).file? file).getD [] ++
          if IsWritable e then line e else []) := by
  obtain ⟨made, tree', hmade, happend⟩ := fresh.exists_append room names name day
  obtain ⟨hwrite, spares, hfile⟩ := write_of_append hmade happend
  rw [here_writeAll] at spares hfile
  refine ⟨tree', _, ?_, rfl, spares, hread.added ▸ hfile⟩
  rw [hwrite, hread.refusal?]
  split <;> rfl

variable (read : ∀ w ∈ writes, IsReadBack w.2)
    (order : writes.Pairwise fun v w => v.1.number ≤ w.1.number) (htoday : 8 < today.number)

include read order htoday

/-- What the query of a week asks for is the data of all entries of the category, the newest
first. -/
theorem answers_writeAll (name : IsFileName category) (limit : Int) :
    log.answers today (weekQuery category limit) (log.writeAll writes tree) =
      (weekData category today writes).reverse := by
  have hday (day : Date) (hspan : day ∈ today.backTo (today.number - 7)) :
      (log.matching (weekQuery category limit) (log.writeAll writes tree) day).reverse =
        (((writes.filter fun w => w.2.category = category ∧ IsWritable w.2 ∧
          today.number - 7 ≤ w.1.number ∧
          w.1.number ≤ today.number).filter fun w => w.1 = day).map fun w => w.2.data).reverse := by
    have hspan := Date.mem_backTo.mp hspan
    rw [← entriesOf_eq_ok (entriesOf_writeAll fresh room names read (q := weekQuery category limit)
      name rfl day)]
    rw [weekQuery, writtenTo, List.filter_map, List.map_map, List.filter_filter, List.filter_filter]
    refine congrArg (fun ws => (List.map _ ws).reverse) (List.filter_congr fun w _ => ?_)
    simp only [Function.comp_apply]
    grind
  have hspan : (weekQuery category limit).span today = today.backTo (today.number - 7) := rfl
  rw [answers, hspan, List.flatMap_congr hday]
  have first : 1 < today.number - 7 := by omega
  refine Date.flatMap_backTo (fun w => w.2.data) first (order.filter _) fun w hw => ?_
  obtain ⟨-, hmatch⟩ := List.mem_filter.mp hw
  exact (of_decide_eq_true hmatch).2.2

/-- The query of a week gives the data of all entries of the category, the newest first. -/
theorem query_writeAll (name : IsFileName category) {limit : Int}
    (hlimit : ((weekData category today writes).length : Int) ≤ limit) :
    log.query today (weekQuery category limit) (log.writeAll writes tree) =
      .ok (weekData category today writes).reverse := by
  cases h : log.query today (weekQuery category limit) (log.writeAll writes tree) with
  | ok found =>
    rw [query_eq_take h, answers_writeAll fresh room names read order htoday name,
      List.take_of_length_le]
    rw [List.length_reverse]
    show _ ≤ limit.toNat
    omega
  | error f =>
    rcases query_eq_error_iff.mp h with hfirst | ⟨_, -, day, hday, -, ends⟩
    · obtain ⟨-, hearly, -⟩ := firstDay_eq_error.mp hfirst
      have hearly : today.number ≤ 7 := hearly
      omega
    · -- All files can be read, and the week ends before the first day of the calendar.
      obtain ⟨hnone, -⟩ :=
        (endsAt_of_ok (entriesOf_writeAll fresh room names read (q := weekQuery category limit)
          name rfl day)).mp ends
      have hone := Date.previous?_eq_none.mp hnone
      have hspan : today.number - 7 ≤ day.number := (Date.mem_backTo.mp hday).1
      omega

end

/-- What is logged is read back. On a fresh log every entry that the interpreter does not find
nested too deeply is written, as one line of printable ASCII at the end of the file of its category
and its day; any other one is refused and adds nothing. No other file changes. A query of the week
gives the data of all entries of a category that have been written in it, the newest first, as long
as it asks for as many. -/
theorem log_round_trips (fresh : log.IsFresh tree) (room : log.HasRoom)
    (names : ∀ w ∈ writes, IsFileName w.2.category) (read : ∀ w ∈ writes, IsReadBack w.2)
    (order : writes.Pairwise fun v w => v.1.number ≤ w.1.number) (htoday : 8 < today.number) :
    (∀ before w after, writes = before ++ w :: after → ∃ tree' file,
      log.write w.1 w.2 (log.writeAll before tree) =
        (tree', if IsWritable w.2 then .ok () else .error .writtenTooDeep) ∧
      (log.file w.2.category w.1).place tree.here = file ∧
      Spares {file} (log.writeAll before tree) tree' ∧
      tree'.file? file =
        some (((log.writeAll before tree).file? file).getD [] ++
          if IsWritable w.2 then line w.2 else [])) ∧
    (∀ e, ∃ body, line e = body ++ [lineEnd] ∧ ∀ b ∈ body, 0x20 ≤ b ∧ b ≤ 0x7E) ∧
    ∀ category (limit : Int), IsFileName category →
    ((weekData category today writes).length : Int) ≤ limit →
      log.query today (weekQuery category limit) (log.writeAll writes tree) =
        .ok (weekData category today writes).reverse := by
  refine ⟨?_, exists_line, ?_⟩
  · rintro before w after rfl
    have hnames : ∀ w ∈ before, IsFileName w.2.category :=
      fun w hw => names w (List.mem_append_left _ hw)
    have hmem : w ∈ before ++ w :: after := List.mem_append_right _ List.mem_cons_self
    exact exists_write_line fresh room hnames (names w hmem) (read w hmem) w.1
  · intro category limit name hlimit
    exact query_writeAll fresh room names read order htoday name hlimit

end

/-! ### The log of an empty tree -/

def usualPlace : List Text := Text.words ["home", ".nstackgen", "logs"]

def emptyLogTree : FileTree :=
  (FileTree.empty.insert (Text.words ["home", ".nstackgen"]) .directory).insert
    usualPlace .directory

theorem standsEmpty_emptyLogTree : default.StandsEmpty usualPlace emptyLogTree where
  located := rfl
  directory := by decide
  nothing more hmore := by
    have hlong : 3 < (usualPlace ++ more).length := by
      rw [List.length_append]
      exact Nat.lt_add_of_pos_right (List.length_pos_iff.mpr hmore)
    have hne {place : List Text} (h : place.length ≤ 3) : usualPlace ++ more ≠ place := by
      rintro rfl
      omega
    have habove : ¬ usualPlace ++ more <+: FileTree.empty.here := by
      intro h
      have hshort : (usualPlace ++ more).length ≤ 1 := h.length_le
      omega
    rw [emptyLogTree, get?_insert_of_ne (hne (by decide)), get?_insert_of_ne (hne (by decide))]
    exact if_neg habove

theorem isFresh_default : default.IsFresh .empty := .absent rfl rfl standsEmpty_emptyLogTree

theorem hasRoom_default : default.HasRoom := ⟨rfl, by decide⟩

theorem isFileName_builds : IsFileName LogEntry.builds := by
  refine ⟨⟨?_, ?_, ?_, ?_, ?_, ?_⟩, ?_⟩ <;> decide

/-- An entry with a line separator, a quote and a line feed in a text. -/
def spokenEntry : LogEntry := ⟨LogEntry.builds, .object [("said", .text "\u2028\"\n")]⟩

def countedEntry : LogEntry := ⟨LogEntry.builds, .list [.int (-7), .null, .bool true]⟩

def otherEntry : LogEntry := ⟨"other", .text "\r"⟩

def spokenDay : Date := ⟨739684, by decide, by decide⟩

def spokenWrites : List (Date × LogEntry) :=
  [(spokenDay, spokenEntry), (spokenDay, otherEntry), (damagedDay, countedEntry)]

theorem forall_mem_spokenWrites {P : Date × LogEntry → Prop} (h : P (spokenDay, spokenEntry))
    (h' : P (spokenDay, otherEntry)) (h'' : P (damagedDay, countedEntry)) :
    ∀ w ∈ spokenWrites, P w :=
  List.forall_mem_cons.mpr ⟨h, List.forall_mem_cons.mpr ⟨h', List.forall_mem_singleton.mpr h''⟩⟩

/-- The later entry is the first one of the answer, and the one of the other category is none. -/
theorem log_round_trips_spoken : default.query damagedDay (weekQuery LogEntry.builds 2)
    (default.writeAll spokenWrites .empty) = .ok [countedEntry.data, spokenEntry.data] := by
  have names : ∀ w ∈ spokenWrites, IsFileName w.2.category := by
    refine forall_mem_spokenWrites isFileName_builds ?_ isFileName_builds
    refine ⟨⟨?_, ?_, ?_, ?_, ?_, ?_⟩, ?_⟩ <;> decide
  have digits : (Text.ofNat 7).length ≤ Json.digitLimit := by
    have hone : (Text.digits 10 7).length ≤ 1 := Text.length_digits_le le_rfl (by decide)
    rw [Text.ofNat, List.length_map]
    exact hone.trans (by decide)
  have read : ∀ w ∈ spokenWrites, IsReadBack w.2 := by
    refine forall_mem_spokenWrites ⟨.object ?_ ?_ ?_, fun _ => ?_⟩ ⟨.text (by decide), fun _ => ?_⟩
      ⟨.list ?_, fun _ => ?_⟩
    · decide
    · exact List.forall_mem_singleton.mpr (by decide)
    · exact List.forall_mem_singleton.mpr (.text (by decide))
    · decide
    · decide
    · exact List.forall_mem_cons.mpr ⟨.int digits,
        List.forall_mem_cons.mpr ⟨.null, List.forall_mem_singleton.mpr (.bool true)⟩⟩
    · decide
  have weeks : 8 < damagedDay.number := by decide
  obtain ⟨-, -, answer⟩ :=
    log_round_trips isFresh_default hasRoom_default names read (by decide) weeks
  exact answer LogEntry.builds 2 isFileName_builds (by decide)

end BuildLog

end LocaleGen
