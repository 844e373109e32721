import LocaleGen.Proofs.Ways
import Mathlib

/-!
# Texts that are written as a whole or not at all

A text that cannot be written leaves every file as it was, and of a text that is written the file at
the end of the path has all. Either way nothing else is left behind but directories on the way, for
the temporary file goes wherever the write ends. What is in the way of a write is a text that has no
encoding, a directory at the end of the path or a file before it (`FileTree.IsHindered`). On a path
of names that files can have, from the root or from the working directory, nothing else is
(`FileTree.writeText_of_isOrdinary`). Together: `FileTree.writeText_all_or_nothing`.
-/

namespace LocaleGen

/-- A path to a name that a file can have, with room for the name and the path of the temporary
file. The names before it may lead up. -/
structure Path.IsOrdinary (here : List Text) (p : Path) : Prop where
  steps : ∀ name ∈ p.names, FileTree.IsStep name
  file : FileTree.IsFileName p.name
  short : FileTree.size p.render ≤ FileTree.pathLimit
  room : FileTree.HasRoom p (p.parent.place here)

namespace Path

variable {p : Path} {name : Text} {n : Nat}

@[simp] theorem upTo_length (p : Path) : p.upTo p.names.length = p := by
  simp [upTo]

theorem upTo_child (name : Text) (h : n ≤ p.names.length) : (p.child name).upTo n = p.upTo n := by
  simp [upTo, child, List.take_append_of_le_length h]

theorem upTo_min (p : Path) (n : Nat) : p.upTo (min n p.names.length) = p.upTo n := by
  simp [upTo, List.take_eq_take_iff]

/-- Every path is a root or a name below another path. -/
@[elab_as_elim] theorem childRec {motive : Path → Prop} (root : ∀ r, motive ⟨r, []⟩)
    (child : ∀ p name, motive p → motive (p.child name)) (p : Path) : motive p := by
  obtain ⟨r, names⟩ := p
  induction names using List.reverseRecOn with
  | nil => exact root r
  | append_singleton names name ih => exact child ⟨r, names⟩ name ih

theorem exists_eq_child (h : p.name ≠ []) : ∃ q : Path, q.child p.name = p := by
  cases hlast : p.names.getLast? with
  | none => simp [Path.name, hlast] at h
  | some last =>
    have hname : p.name = last := by simp [Path.name, hlast]
    exact ⟨p.parent, by rw [hname, parent, child, List.dropLast_append_getLast? last hlast]⟩

end Path

namespace FileTree

variable {tree tree' : FileTree} {root shown content : Text} {target p : Path}
    {place temporary : List Text} {n : Nat}

/-- What is in the way of a write. -/
inductive IsHindered (tree : FileTree) (target : Path) (content : Text) : Prop
  | unencodable : ¬ content.IsScalar → IsHindered tree target content
  | directory : tree.get? (target.place tree.here) = some .directory →
      IsHindered tree target content
  /-- The path goes through the place that it leads to, so there is a directory by the time it gets
  there. -/
  | passed {n : Nat} :
      n < target.names.length → (target.upTo n).place tree.here = target.place tree.here →
      IsHindered tree target content
  | file {n : Nat} {bytes : Bytes} : n < target.names.length →
      tree.get? ((target.upTo n).place tree.here) = some (.file bytes) →
        IsHindered tree target content

/-! ## Hindered writes -/

/-- A path leads through directories only. -/
theorem get?_of_locate (h : tree.locate target = .ok place) (hn : n < target.names.length) :
    tree.get? ((target.upTo n).place tree.here) = some .directory := by
  have hwalk := walk_of_locate h
  rw [← List.take_append_drop n target.names, List.drop_eq_getElem_cons hn, walk_append] at hwalk
  obtain ⟨middle, hmiddle, hwalk⟩ := bind_eq_ok.mp hwalk
  obtain rfl : middle = (target.upTo n).place tree.here := walk_eq_ok hmiddle
  simp only [walk] at hwalk
  split at hwalk
  · cases hwalk
  · cases hwalk
  · next hdirectory => exact hdirectory

theorem IsHindered.fails (h : tree.IsHindered target content) (root : Text) :
    ∃ f, (tree.writeText root target content).2 = .error f := by
  cases hwritten : tree.writeText root target content with
  | mk tree' result =>
    cases result with
    | error f => exact ⟨f, rfl⟩
    | ok =>
      have replaces := replaces_of_writeText hwritten
      have spares := spares_makeParents tree target
      have through {n : Nat} (hn : n < target.names.length) :
          tree'.get? ((target.upTo n).place tree.here) = some .directory := by
        have hentry := get?_of_locate replaces.holds.located hn
        rwa [replaces.here, spares.here] at hentry
      have written := file?_eq_some.mp replaces.holds.file
      exfalso
      cases h with
      | unencodable hnot => exact hnot replaces.isScalar
      | directory hdirectory => exact replaces.notDirectory (spares.directories _ hdirectory)
      | passed hn hplace =>
        rw [← hplace, through hn] at written
        cases written
      | @file n bytes hn hfile =>
        have hdirectory := through hn
        by_cases hsame : (target.upTo n).place tree.here = target.place tree.here
        · rw [hsame, written] at hdirectory
          cases hdirectory
        · rw [← file?_eq_some, ← spares.files _ (Set.notMem_empty _), file?_eq_some] at hfile
          rw [replaces.others _ hsame, hfile] at hdirectory
          cases hdirectory

/-! ## Ordinary paths -/

theorem size_pos {t : Text} (h : t ≠ []) : 1 ≤ size t := by
  obtain ⟨c, rest, rfl⟩ := List.exists_cons_of_ne_nil h
  have hone : 1 ≤ size [c] := by
    simp only [size, Utf8.encodeChar, List.map_cons, List.map_nil, List.foldl_cons, List.foldl_nil]
    split_ifs <;> simp
  rw [← List.singleton_append, size_append]
  omega

theorem size_render_le_child {name : Text} (h : name ≠ []) (p : Path) :
    size p.render ≤ size (p.child name).render := by
  rw [Path.render_child_eq]
  by_cases hnames : p.names = []
  · rw [Path.render, hnames]
    split
    · exact (size_pos h).trans (by simp [Text.join])
    · simp [Text.join]
  · rw [Path.render, if_neg fun h => hnames h.2, join_concat hnames]
    simp only [size_append]
    omega

/-- The names of a path are names that files can have, and it is not too long. -/
structure IsPassable (p : Path) : Prop where
  steps : ∀ name ∈ p.names, IsStep name
  short : size p.render ≤ pathLimit

theorem IsPassable.of_child {name : Text} (h : IsPassable (p.child name)) :
    IsPassable p ∧ IsStep name := by
  obtain ⟨steps, hname⟩ := List.forall_mem_append.mp h.steps
  have step := hname name (List.mem_singleton_self name)
  exact ⟨⟨steps, (size_render_le_child step.nonempty p).trans h.short⟩, step⟩

theorem IsPassable.admits (h : IsPassable p) : Admits p 0 where
  size_le := h.short
  checked := by
    induction p using Path.childRec with
    | root pathRoot => cases pathRoot <;> exact checkPath_eq_ok.mpr (by decide)
    | child p name ih =>
      obtain ⟨front, step⟩ := h.of_child
      exact checkPath_child (ih front) step

/-- No file is where the first `count` beginnings of a path lead, the root being the first. -/
def IsClear (tree : FileTree) (p : Path) (count : Nat) : Prop :=
  ∀ n < count, ∀ bytes, tree.get? ((p.upTo n).place tree.here) ≠ some (.file bytes)

theorem IsClear.mono {m : Nat} (h : tree.IsClear p n) (few : m ≤ n) : tree.IsClear p m :=
  fun k hk => h k (Nat.lt_of_lt_of_le hk few)

theorem IsClear.of_child {name : Text} (h : tree.IsClear (p.child name) (p.names.length + 1)) :
    tree.IsClear p (p.names.length + 1) := by
  intro n hn bytes
  rw [← Path.upTo_child name (Nat.le_of_lt_succ hn)]
  exact h n hn bytes

theorem IsClear.last (h : tree.IsClear p (p.names.length + 1)) (bytes : Bytes) :
    tree.get? (p.place tree.here) ≠ some (.file bytes) := by
  simpa using h _ (Nat.lt_succ_self _) bytes

/-- On a way without files a path leads somewhere, unless something is missing. -/
theorem locate_of_isClear (h : IsPassable p) (clear : tree.IsClear p p.names.length) :
    tree.locate p = .ok (p.place tree.here) ∨
      tree.locate p = .error (.file (.notFound p.render)) := by
  induction p using Path.childRec with
  | root pathRoot => exact .inl (locate_eq h.admits.checked h.short)
  | child p name ih =>
    obtain ⟨front, step⟩ := h.of_child
    have clear : tree.IsClear p (p.names.length + 1) := .of_child (by simpa [Path.child] using clear)
    rcases ih front (clear.mono (Nat.le_succ _)) with hlocate | hlocate
    · have hstep := locate_child front.admits h.admits step hlocate
      cases hentry : tree.get? (p.place tree.here) with
      | none =>
        rw [hentry] at hstep
        exact .inr hstep
      | some entry =>
        cases entry with
        | file bytes => exact absurd hentry (clear.last bytes)
        | directory =>
          rw [hentry, ← Path.place_child] at hstep
          exact .inl hstep
    · exact .inr (locate_child_of_notFound front.admits h.admits hlocate)

/-- A path leads to a place, and a directory is there. -/
structure HasDirectory (tree : FileTree) (p : Path) (place : List Text) : Prop where
  located : tree.locate p = .ok place
  directory : tree.get? place = some .directory

/-- Where a path leads and no file is, there is a directory or one can be made. -/
theorem exists_ensureDirectory (hlocate : tree.locate p = .ok place)
    (hfile : ∀ bytes, tree.get? place ≠ some (.file bytes)) :
    ∃ made, tree.ensureDirectory p = .ok made ∧
      (∀ depth, makeDirectories depth tree p = (made, .ok ())) ∧ made.HasDirectory p place := by
  cases hentry : tree.get? place with
  | none =>
    exact ⟨_, ensureDirectory_of_none hlocate hentry,
      fun depth => makeDirectories_of_none depth hlocate hentry,
      (adds_insert_directory hentry).spares.locate hlocate,
      get?_insert_self (not_above (by simp [hentry])) _⟩
  | some entry =>
    cases entry with
    | file bytes => exact absurd hentry (hfile bytes)
    | directory =>
      exact ⟨tree, ensureDirectory_of_directory hlocate hentry,
        fun depth => makeDirectories_of_directory depth hlocate hentry, hlocate, hentry⟩

/-- On a way without files all directories are there or can be made. -/
theorem makeDirectories_of_isClear (h : IsPassable p)
    (clear : tree.IsClear p (p.names.length + 1)) {depth : Nat} (hdepth : p.names.length ≤ depth) :
    ∃ made, makeDirectories depth tree p = (made, .ok ()) ∧
      made.HasDirectory p (p.place tree.here) := by
  induction p using Path.childRec generalizing depth with
  | root pathRoot =>
    have hlocate : tree.locate ⟨pathRoot, []⟩ = .ok ((Path.mk pathRoot []).place tree.here) :=
      locate_eq h.admits.checked h.short
    obtain ⟨made, -, hmade, stands⟩ := exists_ensureDirectory hlocate clear.last
    exact ⟨made, hmade depth, stands⟩
  | child p name ih =>
    obtain ⟨front, step⟩ := h.of_child
    have hlength : (p.child name).names.length = p.names.length + 1 := by simp [Path.child]
    rw [hlength] at hdepth
    rcases locate_of_isClear h (clear.mono (Nat.le_succ _)) with hlocate | hlocate
    · obtain ⟨made, -, hmade, stands⟩ := exists_ensureDirectory hlocate clear.last
      exact ⟨made, hmade depth, stands⟩
    · -- what is above is missing, so it is made first
      obtain ⟨depth, rfl⟩ : ∃ n, depth = n + 1 := ⟨depth - 1, by omega⟩
      have clearFront : tree.IsClear p (p.names.length + 1) :=
        .of_child (clear.mono (hlength ▸ Nat.le_succ _))
      obtain ⟨above, habove, stands⟩ := ih front clearFront (Nat.le_of_succ_le_succ hdepth)
      have hchild := locate_child front.admits h.admits step stands.located
      rw [stands.directory, ← Path.place_child] at hchild
      have spares : Spares ∅ tree above := by
        have adds := adds_makeDirectories depth tree p
        rw [habove] at adds
        exact adds.spares
      have hfile (bytes : Bytes) :
          above.get? ((p.child name).place tree.here) ≠ some (.file bytes) := by
        intro hentry
        rw [← file?_eq_some, spares.files _ (Set.notMem_empty _), file?_eq_some] at hentry
        exact clear.last bytes hentry
      obtain ⟨made, hmade, -, stands⟩ := exists_ensureDirectory hchild hfile
      exact ⟨made, makeDirectories_of_notFound hlocate (by rw [Path.parent_child, habove]) hmade,
        stands⟩

/-! ## Writes that nothing is in the way of -/

theorem exists_replace_ok {source : List Text} {bytes : Bytes}
    (hsource : tree.get? source = some (.file bytes)) (file : IsFileName target.name)
    (hlocate : tree.locate target = .ok place) (hnot : tree.get? place ≠ some .directory) :
    ∃ tree', tree.replace source shown target = .ok tree' := by
  have hbusy : ¬ (target.names = [] ∨ target.name = up) := by
    rintro (hnone | hup)
    · exact file.nonempty (by rw [Path.name, hnone]; rfl)
    · exact file.ne_up hup
  unfold replace
  rw [if_neg hbusy, hlocate]
  simp only [bind, Except.bind, hsource]
  cases hentry : tree.get? place with
  | none => exact ⟨_, rfl⟩
  | some entry =>
    cases entry with
    | file old => exact ⟨_, rfl⟩
    | directory => exact absurd hentry hnot

theorem exists_replaceVia_ok (free : tree.get? temporary = none) (scalar : content.IsScalar)
    (file : IsFileName target.name) (hlocate : tree.locate target = .ok place)
    (hnot : tree.get? place ≠ some .directory) :
    ∃ tree', tree.replaceVia temporary shown target content = (tree', .ok ()) := by
  have hfree : tree.get? temporary ≠ some .directory := by simp [free]
  have habove := not_above hfree
  have hcreated : (tree.insert temporary (.file [])).get? temporary ≠ some .directory := by
    simp [habove]
  have hsource :
    ((tree.insert temporary (.file [])).insert temporary (.file (Utf8.encodeAll content))).get? temporary =
      some (.file (Utf8.encodeAll content)) := by
    simp [habove]
  have hnot' :
    ((tree.insert temporary (.file [])).insert temporary (.file (Utf8.encodeAll content))).get? place ≠
      some .directory := by
    by_cases hsame : place = temporary
    · simp [hsame, hsource]
    · simpa [hsame] using hnot
  have hlocate' := (keeps_insert hcreated (.file (Utf8.encodeAll content))).locate
    ((keeps_insert hfree (.file [])).locate hlocate)
  obtain ⟨tree', hreplace⟩ := exists_replace_ok hsource file hlocate' hnot'
  refine ⟨tree', ?_⟩
  unfold replaceVia
  simp only [Utf8.encode_of_isScalar scalar]
  rw [hreplace]

/-- A directory that is made on the way is not at the end of it, so none is there that was not
before. -/
theorem notDirectory_of_makeParents {name : Text}
    (free : ¬ tree.IsHindered (p.child name) content) :
    FileTree.get? (tree.makeParents (p.child name)).1 ((p.child name).place tree.here) ≠
      some .directory := by
  have adds := adds_makeParents tree (p.child name)
  rw [Path.parent_child] at adds
  rcases adds.entries ((p.child name).place tree.here) with same | ⟨⟨n, hn⟩, -⟩
  · rw [same]
    exact fun hentry => free (.directory hentry)
  · have hfew : min n p.names.length ≤ p.names.length := Nat.min_le_right _ _
    rw [show (fun n => (p.upTo n).place tree.here) n = (p.upTo n).place tree.here from rfl,
      ← Path.upTo_min,
      ← Path.upTo_child name hfew] at hn
    exact absurd (.passed (by simp [Path.child]) hn) free

/-- On a way of names that files can have a text is written unless it has no encoding, a directory
is at the end or a file on the way. -/
theorem writeText_of_isOrdinary (ordinary : target.IsOrdinary tree.here)
    (free : ¬ tree.IsHindered target content) (root : Text) :
    (tree.writeText root target content).2 = .ok () := by
  obtain ⟨steps, file, short, room⟩ := ordinary
  have passable : IsPassable target := ⟨steps, short⟩
  obtain ⟨directory, htarget⟩ := Path.exists_eq_child file.nonempty
  generalize target.name = last at file htarget
  subst htarget
  obtain ⟨front, -⟩ := passable.of_child
  have clear : tree.IsClear directory (directory.names.length + 1) := by
    refine .of_child fun n hn bytes hfile => free (.file ?_ hfile)
    simpa [Path.child] using hn
  -- the directories on the way are made, and the path leads through them to where no directory is
  obtain ⟨made, hmade, stands⟩ := makeDirectories_of_isClear front clear (Nat.le_succ _)
  have hparents : tree.makeParents (directory.child last) = (made, .ok ()) := by
    rw [makeParents, Path.parent_child, ← hmade]
    simp [Path.child]
  have hlocate := locate_child front.admits passable.admits file.toIsStep stands.located
  rw [stands.directory, ← Path.place_child] at hlocate
  have hnot := notDirectory_of_makeParents free
  rw [hparents] at hnot
  have scalar : content.IsScalar := by
    by_contra hcontent
    exact free (.unencodable hcontent)
  obtain ⟨tree', hreplace⟩ := exists_replaceVia_ok
    (get?_of_notMem_names (freshName_notMem (made.names (directory.place tree.here))
      (temporaryName last)))
    scalar (by simpa [Path.name, Path.child] using file) hlocate hnot
  rw [Path.parent_child] at room
  unfold writeText
  simp only [hparents, passable.admits.checked, Path.parent_child, stands.located, if_pos room]
  have hname : (directory.child last).name = last := by simp [Path.name, Path.child]
  rw [hname, hreplace]

/-! ## All or nothing -/

/-- A text is written as a whole or not at all. Either it is all there is in the file that its path
leads to, and at other places nothing has changed but that directories on the way have been made; or
no place has changed but for them. What is in the way of the write makes it fail, and nothing else
does on an ordinary path. -/
theorem writeText_all_or_nothing (tree : FileTree) (root : Text) (target : Path) (content : Text) :
    (∀ tree', tree.writeText root target content = (tree', .ok ()) →
      ∃ bytes, Utf8.encode content = .ok bytes ∧ tree'.readBytes target = .ok bytes ∧
        tree'.file? (target.place tree.here) = some bytes ∧
        (∀ place ≠ target.place tree.here, tree'.file? place = tree.file? place) ∧
        ∀ place ≠ target.place tree.here, tree'.get? place = tree.get? place ∨
          place ∈ target.parent.way tree.here ∧ tree.get? place = none ∧
          tree'.get? place = some .directory) ∧
    (∀ tree' f, tree.writeText root target content = (tree', .error f) →
      (∀ place, tree'.file? place = tree.file? place) ∧
        ∀ place, tree'.get? place = tree.get? place ∨
          place ∈ target.parent.way tree.here ∧ tree.get? place = none ∧
          tree'.get? place = some .directory) ∧
    (tree.IsHindered target content → ∃ f, (tree.writeText root target content).2 = .error f) ∧
    (target.IsOrdinary tree.here → ¬ tree.IsHindered target content →
      (tree.writeText root target content).2 = .ok ()) := by
  have parents := adds_makeParents tree target
  refine ⟨fun tree' hok => ?written, fun tree' f herror => ?failed, fun h => h.fails root,
    fun ordinary free => writeText_of_isOrdinary ordinary free root⟩
  case written =>
    have replaces := replaces_of_writeText hok
    refine ⟨_, Utf8.encode_of_isScalar replaces.isScalar, replaces.holds.readBytes,
      replaces.holds.file,
      (writeText_ok hok).1.files, fun place hne => ?_⟩
    rw [replaces.others place hne]
    exact parents.entries place
  case failed =>
    have adds := adds_of_writeText_error herror
    exact ⟨fun place => adds.spares.files place (Set.notMem_empty place), adds.entries⟩

end FileTree

end LocaleGen
