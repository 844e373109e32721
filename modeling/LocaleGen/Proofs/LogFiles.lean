import LocaleGen.Proofs.Calendar
import LocaleGen.Proofs.LogLine
import LocaleGen.Proofs.Ways
import Mathlib

/-!
# The files of a fresh build log

A build log is fresh if its directory is empty or can be made (`BuildLog.IsFresh`). Entries whose
categories are names of files (`FileTree.IsFileName`) then always get at the file of their day.
`BuildLog.Keeps` says what is in the tree after any of them: a directory for every category that has
occurred, in it a file for every day, and in the file what the entries of this category and this day
have added. One more entry keeps it (`BuildLog.Keeps.write`), so a sequence of them does, and every
file is found (`BuildLog.Keeps.find?_file`).
-/

namespace LocaleGen

namespace FileTree

theorem size_of_isPlain {t : Text} (h : t.IsPlain) : size t = t.length := by
  induction t with
  | nil => rfl
  | cons c t ih =>
    obtain ⟨hc, ht⟩ := List.forall_mem_cons.mp h
    simp only [CodePoint.isPlain, Bool.and_eq_true, decide_eq_true_eq] at hc
    have hbyte : isByte c = false := by
      simp [isByte]
      omega
    have hone : size [c] = 1 := by
      simp [size, hbyte, Utf8.encodeChar, if_pos (show c.val < 0x80 by omega)]
    rw [← List.singleton_append, size_append, ih ht, hone, List.length_append,
      List.length_singleton]

end FileTree

namespace BuildLog

open FileTree

variable {log : BuildLog} {tree : FileTree} {home : List Text} {category : Text}
    {day : Date} {e : LogEntry} {writes : List (Date × LogEntry)}

/-! ## Names of categories and days -/

def dayName (day : Date) : Text := day.render ++ ".jsonl"

theorem isDigit_decimal (width n : Nat) : ∀ c ∈ Text.decimal width n, c.isDigit = true :=
  List.forall_mem_map.mpr fun d hd => Text.digit_isDigit (Text.padded_lt (by decide) d hd)

theorem mem_dayName (day : Date) :
    ∀ c ∈ dayName day, c.isDigit = true ∨ c ∈ Text.ofString "-.jsonl" := by
  intro c hc
  unfold dayName Date.render at hc
  simp only [List.mem_append] at hc
  have hyphen (h : c ∈ Text.ofString "-") : c ∈ Text.ofString "-.jsonl" :=
    List.mem_append_left (Text.ofString ".jsonl") h
  have ending (h : c ∈ Text.ofString ".jsonl") : c ∈ Text.ofString "-.jsonl" :=
    List.mem_append_right (Text.ofString "-") h
  obtain ((((h | h) | h) | h) | h) | h := hc
  · exact .inl (isDigit_decimal _ _ c h)
  · exact .inr (hyphen h)
  · exact .inl (isDigit_decimal _ _ c h)
  · exact .inr (hyphen h)
  · exact .inl (isDigit_decimal _ _ c h)
  · exact .inr (ending h)

@[simp] theorem length_dayName (day : Date) : (dayName day).length = 16 := by
  rw [dayName, List.length_append, day.length_render]
  rfl

theorem isPlain_dayName (day : Date) : (dayName day).IsPlain := by
  intro c hc
  rcases mem_dayName day c hc with hdigit | hmem
  · simp only [CodePoint.isDigit, Bool.and_eq_true, decide_eq_true_eq] at hdigit
    simp [CodePoint.isPlain]
    omega
  · exact (by decide : (Text.ofString "-.jsonl").IsPlain) c hmem

theorem dayName_injective : Function.Injective dayName :=
  fun _ _ h => Date.render_injective (List.append_cancel_right h)

theorem isFileName_dayName (day : Date) : IsFileName (dayName day) := by
  have hlength := length_dayName day
  have hplain := isPlain_dayName day
  have hne {t : Text} (ht : t.length ≠ 16) : dayName day ≠ t := by
    rintro rfl
    exact ht hlength
  have hnotMem {c : CodePoint} (hdigit : c.isDigit = false) (hmem : c ∉ Text.ofString "-.jsonl") :
      c ∉ dayName day := by
    intro hc
    rcases mem_dayName day c hc with h | h
    · rw [hdigit] at h
      cases h
    · exact hmem h
  refine ⟨⟨hne (by decide), hne (by decide), hnotMem (by decide) (by decide),
    hnotMem (by decide) (by decide),
    fun c hc => ?_, ?_⟩, hne (by decide)⟩
  · have hc := hplain c hc
    simp [CodePoint.isPlain] at hc
    simp [isForeign, CodePoint.isSurrogate]
    omega
  · rw [size_of_isPlain hplain, hlength]
    decide

theorem ofText_of_isFileName (h : IsFileName category) :
    Path.ofText category = ⟨.relative, [category]⟩ := by
  have hname : Path.isName category = true := by
    simp [Path.isName, h.nonempty, h.ne_here]
  have hroot : Path.rootOf category = .relative := by
    obtain ⟨c, rest, rfl⟩ := List.exists_cons_of_ne_nil h.nonempty
    have hc : c ≠ '/' := fun heq => h.noSlash (heq ▸ List.mem_cons_self)
    simp [Path.rootOf, hc]
  rw [Path.ofText, hroot, Text.splitOn_of_notMem h.noSlash, List.filter_cons_of_pos hname,
    List.filter_nil]

theorem file_eq (h : IsFileName category) (day : Date) :
    log.file category day = (log.directory.child category).child (dayName day) := by
  rw [file, ofText_of_isFileName h]
  rfl

theorem makeParents_file_eq (h : IsFileName category) (day : Date) (tree : FileTree) :
    tree.makeParents (log.file category day) =
      makeDirectories (log.directory.names.length + 1 + 1) tree (log.directory.child category) := by
  rw [makeParents, file_eq h, Path.parent_child]
  congr 1
  simp [Path.child]

def HasRoom (log : BuildLog) : Prop := Admits log.directory (nameLimit + 18)

theorem HasRoom.admits (room : log.HasRoom) (h : IsFileName category) (day : Date) :
    Admits log.directory (0 + (size (dayName day) + 1) + (size category + 1)) where
  checked := room.checked
  size_le := by
    have hroom := room.size_le
    have hshort := h.short
    rw [size_of_isPlain (isPlain_dayName day), length_dayName]
    omega

theorem HasRoom.locate_file (room : log.HasRoom) (h : IsFileName category) (day : Date)
    (hlocate : tree.locate (log.directory.child category) = .ok home) :
    tree.locate ((log.directory.child category).child (dayName day)) =
      match tree.get? home with
      | none =>
        .error (.file (.notFound ((log.directory.child category).child (dayName day)).render))
      | some (.file _) =>
        .error (.file (.notDirectory ((log.directory.child category).child (dayName day)).render))
      | some .directory => .ok (home ++ [dayName day]) := by
  have hname := isFileName_dayName day
  have hcategory := (room.admits h day).child h.toIsStep
  have located := locate_child hcategory (hcategory.child hname.toIsStep) hname.toIsStep hlocate
  rwa [next_of_ne hname.ne_up] at located

/-! ## What is in the tree -/

def writtenTo (category : Text) (day : Date) (writes : List (Date × LogEntry)) : List LogEntry :=
  (writes.filter fun w => w.2.category = category ∧ w.1 = day).map Prod.snd

/-- Below its directory the log has a directory for every category of the entries and a file for
every day, with what they have added. -/
structure Keeps [NestingLimits] (log : BuildLog) (home : List Text) (tree : FileTree)
    (writes : List (Date × LogEntry)) : Prop where
  located : tree.locate log.directory = .ok home
  directory : tree.get? home = some .directory
  categories : ∀ category, IsFileName category →
    tree.get? (home ++ [category]) =
      if ∃ w ∈ writes, w.2.category = category then some .directory else none
  days : ∀ category day, IsFileName category →
    tree.get? (home ++ [category] ++ [dayName day]) =
      (grown none (writtenTo category day writes)).map .file

theorem writtenTo_concat (category : Text) (day : Date) (writes : List (Date × LogEntry))
    (w : Date × LogEntry) :
    writtenTo category day (writes ++ [w]) =
      writtenTo category day writes ++
        if w.2.category = category ∧ w.1 = day then [w.2] else [] := by
  unfold writtenTo
  rw [List.filter_append, List.map_append]
  by_cases h : w.2.category = category ∧ w.1 = day
  · rw [if_pos h, List.filter_cons_of_pos (by simpa using h)]
    rfl
  · rw [if_neg h, List.filter_cons_of_neg (by simpa using h)]
    rfl

variable [NestingLimits]

namespace Keeps

theorem locate_category (h : log.Keeps home tree writes) (room : log.HasRoom)
    (name : IsFileName category) (day : Date) :
    tree.locate (log.directory.child category) = .ok (home ++ [category]) := by
  rw [locate_child (room.admits name day) ((room.admits name day).child name.toIsStep) name.toIsStep
    h.located, h.directory,
    next_of_ne name.ne_up]

theorem makeParents_file (h : log.Keeps home tree writes) (room : log.HasRoom)
    (name : IsFileName category) (day : Date) :
    ∃ tree', tree.makeParents (log.file category day) = (tree', .ok ()) ∧ tree'.here = tree.here ∧
      tree'.get? (home ++ [category]) = some .directory ∧
      ∀ place ≠ home ++ [category], tree'.get? place = tree.get? place := by
  have hlocate := h.locate_category room name day
  have hcategory := h.categories category name
  rw [makeParents_file_eq name]
  by_cases hwritten : ∃ w ∈ writes, w.2.category = category
  · rw [if_pos hwritten] at hcategory
    exact ⟨tree, makeDirectories_of_directory _ hlocate hcategory, rfl, hcategory, fun _ _ => rfl⟩
  · rw [if_neg hwritten] at hcategory
    refine ⟨_, makeDirectories_of_none _ hlocate hcategory, rfl,
      ?_, fun place hne => get?_insert_of_ne hne tree _⟩
    exact get?_insert_self (not_above (by simp [hcategory])) _

/-- A tree that has gained a directory for a category and an entry in the file of a day. -/
theorem concat {after : FileTree} (h : log.Keeps home tree writes) (name : IsFileName e.category)
    (hhere : after.here = tree.here)
    (hcategory : after.get? (home ++ [e.category]) = some .directory)
    (hfile : after.get? (home ++ [e.category] ++ [dayName day]) =
      (grown none (writtenTo e.category day writes ++ [e])).map .file)
    (hothers : ∀ place, place ≠ home ++ [e.category] →
      place ≠ home ++ [e.category] ++ [dayName day] →
      after.get? place = tree.get? place) :
    log.Keeps home after (writes ++ [(day, e)]) := by
  have hdirectories : ∀ place, tree.get? place = some .directory →
      after.get? place = some .directory := by
    intro place hplace
    by_cases hsame : place = home ++ [e.category]
    · rw [hsame, hcategory]
    · by_cases hsame' : place = home ++ [e.category] ++ [dayName day]
      · rw [hsame', h.days e.category day name] at hplace
        cases hgrown : grown none (writtenTo e.category day writes) <;>
          rw [hgrown] at hplace <;> cases hplace
      · rw [hothers place hsame hsame', hplace]
  have keeps : FileTree.Keeps tree after := ⟨hhere, hdirectories⟩
  refine ⟨keeps.locate h.located, hdirectories _ h.directory, fun category hname => ?_,
    fun category day' hname => ?_⟩
  · by_cases hsame : category = e.category
    · rw [hsame, hcategory, if_pos ⟨(day, e), List.mem_concat_self, rfl⟩]
    · have hdirectory : home ++ [category] ≠ home ++ [e.category] := by simpa using hsame
      rw [hothers _ hdirectory (by simp), h.categories category hname]
      refine if_congr ?_ rfl rfl
      simp [Ne.symm hsame]
  · rw [writtenTo_concat]
    by_cases hsame : e.category = category ∧ day = day'
    · obtain ⟨rfl, rfl⟩ := hsame
      rw [if_pos ⟨rfl, rfl⟩, hfile]
    · have hne : home ++ [category] ++ [dayName day'] ≠ home ++ [e.category] ++ [dayName day] := by
        intro heq
        simp only [List.append_assoc, List.append_cancel_left_eq, List.cons_append, List.nil_append,
          List.cons.injEq,
          and_true] at heq
        exact hsame ⟨heq.1.symm, (dayName_injective heq.2).symm⟩
      rw [if_neg hsame, List.append_nil, hothers _ (by simp) hne, h.days category day' hname]

/-- The file of one more entry can be opened, whatever the entry is. -/
theorem write (h : log.Keeps home tree writes) (room : log.HasRoom) (name : IsFileName e.category)
    (day : Date) :
    ∃ made tree', tree.makeParents (log.file e.category day) = (made, .ok ()) ∧
      made.append (log.file e.category day) (added e) = .ok tree' ∧
      log.Keeps home tree' (writes ++ [(day, e)]) := by
  obtain ⟨made, hmade, hhere, hcategory, hothers⟩ := h.makeParents_file room name day
  have keeps : FileTree.Keeps tree made := by
    refine ⟨hhere, fun place hplace => ?_⟩
    by_cases hsame : place = home ++ [e.category]
    · rw [hsame, hcategory]
    · rw [hothers place hsame, hplace]
  have hlocate : made.locate (log.file e.category day) =
      .ok (home ++ [e.category] ++ [dayName day]) := by
    rw [file_eq name, room.locate_file name day (keeps.locate (h.locate_category room name day)),
      hcategory]
  have hentry : made.get? (home ++ [e.category] ++ [dayName day]) =
      (grown none (writtenTo e.category day writes)).map .file := by
    rw [hothers _ (by simp), h.days e.category day name]
  have habove : ¬ home ++ [e.category] ++ [dayName day] <+: made.here :=
    not_above (by rw [hentry]; cases grown none (writtenTo e.category day writes) <;> simp)
  refine ⟨made, _, hmade, append_of_file hlocate hentry, h.concat name hhere ?_ ?_ ?_⟩
  · simp [hcategory]
  · rw [← grown_append, get?_insert_self habove]
    simp [grown]
  · intro place hdirectory hfile
    rw [get?_insert_of_ne hfile, hothers place hdirectory]

/-- Every file is found, and what is found is what its entries have added. -/
theorem find?_file (h : log.Keeps home tree writes) (room : log.HasRoom)
    (name : IsFileName category) (day : Date) :
    tree.find? (log.file category day) =
      .ok ((grown none (writtenTo category day writes)).map .file) := by
  have hlocate := room.locate_file name day (h.locate_category room name day)
  rw [h.categories category name] at hlocate
  rw [file_eq name]
  by_cases hwritten : ∃ w ∈ writes, w.2.category = category
  · rw [if_pos hwritten] at hlocate
    exact find?_of_locate hlocate (h.days category day name)
  · rw [if_neg hwritten] at hlocate
    have hnone : writtenTo category day writes = [] := by
      rw [writtenTo, List.map_eq_nil_iff, List.filter_eq_nil_iff]
      intro w hw hmatch
      exact hwritten ⟨w, hw, (of_decide_eq_true hmatch).1⟩
    rw [find?_of_notFound hlocate, hnone]
    rfl

end Keeps

/-! ## Fresh logs -/

/-- A directory with nothing in it. -/
structure StandsEmpty (log : BuildLog) (home : List Text) (tree : FileTree) : Prop where
  located : tree.locate log.directory = .ok home
  directory : tree.get? home = some .directory
  nothing : ∀ more, more ≠ [] → tree.get? (home ++ more) = none

/-- The directory of the log is there and has nothing in it, or it can be made where nothing is. -/
inductive IsFresh (log : BuildLog) (tree : FileTree) : Prop
  | empty {home : List Text} : log.StandsEmpty home tree → IsFresh log tree
  | absent {ready : FileTree} {home : List Text} :
      tree.lookup log.directory = .error (.file (.notFound log.directory.render)) →
      tree.makeDirectories (log.directory.names.length + 1) log.directory = (ready, .ok ()) →
        log.StandsEmpty home ready →
      IsFresh log tree

theorem StandsEmpty.keeps (h : log.StandsEmpty home tree) : log.Keeps home tree [] where
  located := h.located
  directory := h.directory
  categories category _ := by
    rw [h.nothing _ (List.cons_ne_nil _ _), if_neg (by simp)]
  days category day _ := by
    rw [List.append_assoc, h.nothing _ (by simp)]
    rfl

/-- The first entry finds the log as if its directory were there. -/
theorem IsFresh.exists_ready (fresh : log.IsFresh tree) (room : log.HasRoom) :
    ∃ home ready, log.Keeps home ready [] ∧ ∀ category day, IsFileName category →
      tree.find? (log.file category day) = .ok none ∧
      tree.makeParents (log.file category day) = ready.makeParents (log.file category day) := by
  cases fresh with
  | @empty home hempty =>
    refine ⟨home, tree, hempty.keeps, fun category day name =>
      ⟨hempty.keeps.find?_file room name day, rfl⟩⟩
  | @absent ready home hlookup hmade hempty =>
    have keeps := hempty.keeps
    refine ⟨home, ready, keeps, fun category day name => ?_⟩
    have hmissing : tree.locate (log.directory.child category) =
        .error (.file (.notFound (log.directory.child category).render)) := by
      rcases bind_eq_error.mp hlookup with hlocate | ⟨place, hlocate, hentry⟩
      · exact locate_child_of_notFound (room.admits name day)
          ((room.admits name day).child name.toIsStep) hlocate
      · rw [locate_child (room.admits name day) ((room.admits name day).child name.toIsStep)
          name.toIsStep hlocate]
        split at hentry
        · cases hentry
        · next hnone => rw [hnone]
    refine ⟨?_, ?_⟩
    · rw [file_eq name]
      have hcategory := (room.admits name day).child name.toIsStep
      exact find?_of_notFound
        (locate_child_of_notFound hcategory (hcategory.child (isFileName_dayName day).toIsStep) hmissing)
    · have hready := keeps.locate_category room name day
      have hnone : ready.get? (home ++ [category]) = none := hempty.nothing _ (List.cons_ne_nil _ _)
      rw [makeParents_file_eq name, makeParents_file_eq name,
        makeDirectories_of_none _ hready hnone]
      exact makeDirectories_of_notFound hmissing (by rwa [Path.parent_child])
        (ensureDirectory_of_none hready hnone)

end BuildLog

end LocaleGen
