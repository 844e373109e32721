import LocaleGen.BuildLog.Basic
import LocaleGen.Proofs.FileTree
import Mathlib

/-!
# What writing changes

A path leads to one place, whatever is in the tree, as long as it leads anywhere (`Path.place`).
`Spares` says of two trees that the first one's directories are still there in the second one and
that files differ at some places at most. Directories that are made are not among them, nor is the
temporary file of a write: a text that is written changes the file that its path leads to
(`writeText_ok`), and nothing at all if it cannot be written (`writeText_error`). The build log
grows at the end of one file (`BuildLog.logged_write`).
-/

namespace LocaleGen

/-! ## Places -/

/-- Where a path leads from the working directory `here`, if it leads anywhere. -/
def Path.place (p : Path) (here : List Text) : List Text :=
  p.names.foldl FileTree.next (if p.root = .relative then here else [])

def Path.upTo (p : Path) (n : Nat) : Path := { p with names := p.names.take n }

def Path.way (p : Path) (here : List Text) : Set (List Text) :=
  Set.range fun n => (p.upTo n).place here

theorem Path.place_mem_way (p : Path) (here : List Text) : p.place here ∈ p.way here :=
  ⟨p.names.length, by simp [upTo]⟩

theorem Path.way_parent (p : Path) (here : List Text) : p.parent.way here ⊆ p.way here := by
  rintro place ⟨n, rfl⟩
  refine ⟨min n (p.names.length - 1), ?_⟩
  simp only [upTo, parent, List.dropLast_eq_take, List.take_take]

@[simp] theorem Path.place_child (p : Path) (name : Text) (here : List Text) :
    (p.child name).place here = FileTree.next (p.place here) name := by
  simp only [place, child, List.foldl_append, List.foldl_cons, List.foldl_nil]
  rfl

@[simp] theorem FileTree.next_of_ne {name : Text} (h : name ≠ up) (place : List Text) :
    next place name = place ++ [name] := if_neg h

namespace FileTree

variable {tree tree' : FileTree}

theorem walk_eq_ok {shown : Text} {place last names : List Text}
    (h : tree.walk shown place names = .ok last) : last = names.foldl next place := by
  induction names generalizing place with
  | nil => exact (Except.ok.inj h).symm
  | cons name rest ih =>
    simp only [walk] at h
    split at h
    · cases h
    · cases h
    · split at h
      · cases h
      · exact ih h

theorem walk_of_locate {p : Path} {place : List Text} (h : tree.locate p = .ok place) :
    tree.walk p.render (tree.start p) p.names = .ok place := by
  simp only [locate, bind_eq_ok] at h
  obtain ⟨-, -, h⟩ := h
  split at h
  · cases h
  · exact mapError_eq_ok.mp h

theorem locate_eq_ok {p : Path} {place : List Text} (h : tree.locate p = .ok place) :
    p.place tree.here = place :=
  (walk_eq_ok (walk_of_locate h)).symm

/-! ## Files -/

def file? (tree : FileTree) (place : List Text) : Option Bytes :=
  match tree.get? place with
  | some (.file content) => some content
  | _ => none

@[grind =] theorem file?_eq_some {place : List Text} {content : Bytes} :
    tree.file? place = some content ↔ tree.get? place = some (.file content) := by
  unfold file?
  split
  · next found h => simp [h]
  · next h => simpa using h content

/-- A path leads to a place, where a file with this content is. -/
structure Holds (tree : FileTree) (p : Path) (place : List Text) (content : Bytes) : Prop where
  located : tree.locate p = .ok place
  file : tree.file? place = some content

theorem Holds.readBytes {p : Path} {place : List Text} {content : Bytes}
    (h : Holds tree p place content) : tree.readBytes p = .ok content := by
  have hlookup : tree.lookup p = .ok (.file content) := by
    refine bind_eq_ok.mpr ⟨_, h.located, ?_⟩
    rw [file?_eq_some.mp h.file]
  rw [FileTree.readBytes, hlookup]
  rfl

theorem Holds.readText_eq {p p' : Path} {names names' : List Text} {content : Bytes}
    (h : Holds tree p names content) (h' : Holds tree' p' names' content) :
    tree.readText p = tree'.readText p' := by
  rw [FileTree.readText, FileTree.readText, h.readBytes, h'.readBytes]

@[simp] theorem find?_eq_some_iff {p : Path} {e : FileEntry} : tree.find? p = .ok (some e) ↔
    tree.lookup p = .ok e := by
  unfold find?
  split <;> simp_all

/-- A path that cannot be looked for has names that are too long. -/
theorem find?_eq_error_iff {p : Path} {f : Fault} :
    tree.find? p = .error f ↔ ∃ shown, f = .file (.nameTooLong shown) ∧
    tree.lookup p = .error f := by
  unfold find?
  constructor
  · intro h
    split at h
    · cases h
    · next shown hlookup =>
      cases h
      exact ⟨shown, rfl, hlookup⟩
    · cases h
  · rintro ⟨shown, rfl, hlookup⟩
    rw [hlookup]

theorem isFile_eq_true_iff {p : Path} :
    tree.isFile p = .ok true ↔ ∃ content, tree.lookup p = .ok (.file content) := by
  constructor
  · intro h
    obtain ⟨found, hfound, h⟩ := bind_eq_ok.mp h
    split at h
    · exact ⟨_, find?_eq_some_iff.mp hfound⟩
    · cases h
  · rintro ⟨content, hlookup⟩
    rw [isFile, find?_eq_some_iff.mpr hlookup]
    rfl

theorem isFile_eq_error_iff {p : Path} {f : Fault} :
    tree.isFile p = .error f ↔ ∃ shown, f = .file (.nameTooLong shown) ∧
    tree.lookup p = .error f := by
  rw [← find?_eq_error_iff, isFile, bind_eq_error]
  refine or_iff_left ?_
  rintro ⟨found, -, h⟩
  split at h <;> cases h

theorem isFile_of_readBytes {p : Path} {bytes : Bytes} (h : tree.readBytes p = .ok bytes) :
    tree.isFile p = .ok true := by
  obtain ⟨entry, hlookup, h⟩ := bind_eq_ok.mp h
  split at h
  · exact isFile_eq_true_iff.mpr ⟨_, hlookup⟩
  · cases h

theorem isFile_of_readText {p : Path} {t : Text} (h : tree.readText p = .ok t) :
    tree.isFile p = .ok true := by
  obtain ⟨bytes, hbytes, -⟩ := bind_eq_ok.mp h
  exact isFile_of_readBytes hbytes

theorem holds_of_isFile {p : Path} (h : tree.isFile p = .ok true) :
    ∃ place content, Holds tree p place content := by
  obtain ⟨content, hlookup⟩ := isFile_eq_true_iff.mp h
  obtain ⟨place, hlocate, hentry⟩ := bind_eq_ok.mp hlookup
  refine ⟨place, content, hlocate, file?_eq_some.mpr ?_⟩
  split at hentry
  · next e he =>
    cases hentry
    exact he
  · cases hentry

/-! ## Trees that differ at some places -/

/-- What was a directory still is one, and only the files at the places `touched` may have
changed. -/
structure Spares (touched : Set (List Text)) (tree tree' : FileTree) :
    Prop extends Keeps tree tree' where
  files : ∀ place, place ∉ touched → tree'.file? place = tree.file? place

namespace Spares

variable {touched touched' : Set (List Text)} {tree'' : FileTree}

theorem refl (touched : Set (List Text)) (tree : FileTree) : Spares touched tree tree :=
  ⟨⟨rfl, fun _ h => h⟩, fun _ _ => rfl⟩

theorem mono (h : Spares touched tree tree') (hsub : touched ⊆ touched') :
    Spares touched' tree tree' :=
  ⟨h.toKeeps, fun place hplace => h.files place fun hmem => hplace (hsub hmem)⟩

theorem trans (h : Spares touched tree tree') (h' : Spares touched tree' tree'') :
    Spares touched tree tree'' where
  here := h'.here.trans h.here
  directories place hplace := h'.directories place (h.directories place hplace)
  files place hplace := (h'.files place hplace).trans (h.files place hplace)

theorem holds (h : Spares touched tree tree') {p : Path} {place : List Text} {content : Bytes}
    (held : Holds tree p place content) (hnot : place ∉ touched) : Holds tree' p place content :=
  ⟨h.locate held.located, (h.files place hnot).trans held.file⟩

end Spares

/-- Something else than a directory stood at the only place that has changed. -/
theorem Spares.of_entry_ne {place : List Text} (here : tree'.here = tree.here)
    (h : tree.get? place ≠ some .directory)
    (same : ∀ other ≠ place, tree'.get? other = tree.get? other) : Spares {place} tree tree' where
  toKeeps := .of_entry_ne here h same
  files other hother := by
    have hne : other ≠ place := hother
    rw [file?, file?, same other hne]

theorem spares_insert_file {place : List Text} (h : tree.get? place ≠ some .directory)
    (content : Bytes) : Spares {place} tree (tree.insert place (.file content)) :=
  .of_entry_ne rfl h fun _ hne => get?_insert_of_ne hne tree _

theorem spares_erase {place : List Text} (h : tree.get? place ≠ some .directory) :
    Spares {place} tree (tree.erase place) :=
  .of_entry_ne rfl h fun _ hne => get?_erase_of_ne hne tree

theorem file?_insert_self {place : List Text} (h : ¬ place <+: tree.here) (content : Bytes) :
    (tree.insert place (.file content)).file? place = some content := by
  rw [file?_eq_some, get?_insert_self h]

/-! ## Directories that are made -/

/-- Directories have been made at some of the places, where there was nothing, and nothing else has
changed. -/
structure Adds (places : Set (List Text)) (tree tree' : FileTree) : Prop where
  here : tree'.here = tree.here
  entries : ∀ place, tree'.get? place = tree.get? place ∨
    place ∈ places ∧ tree.get? place = none ∧ tree'.get? place = some .directory

namespace Adds

variable {places places' : Set (List Text)} {tree'' : FileTree}

theorem refl (places : Set (List Text)) (tree : FileTree) : Adds places tree tree :=
  ⟨rfl, fun _ => .inl rfl⟩

theorem mono (h : Adds places tree tree') (hsub : places ⊆ places') : Adds places' tree tree' :=
  ⟨h.here, fun place => (h.entries place).imp_right fun made => ⟨hsub made.1, made.2⟩⟩

theorem trans (h : Adds places tree tree') (h' : Adds places tree' tree'') :
    Adds places tree tree'' where
  here := h'.here.trans h.here
  entries place := by
    rcases h'.entries place with same | ⟨hplace, hnone, hmade⟩
    · rw [same]
      exact h.entries place
    · rcases h.entries place with same | ⟨-, -, hthere⟩
      · exact .inr ⟨hplace, same ▸ hnone, hmade⟩
      · rw [hthere] at hnone
        cases hnone

theorem spares (h : Adds places tree tree') : Spares ∅ tree tree' where
  here := h.here
  directories place hplace := by
    rcases h.entries place with same | ⟨-, hnone, -⟩
    · rw [same, hplace]
    · rw [hplace] at hnone
      cases hnone
  files place _ := by
    rcases h.entries place with same | ⟨-, hnone, hmade⟩
    · rw [file?, file?, same]
    · rw [file?, file?, hnone, hmade]

end Adds

theorem adds_insert_directory {place : List Text} (h : tree.get? place = none) :
    Adds {place} tree (tree.insert place .directory) where
  here := rfl
  entries other := by
    by_cases hsame : other = place
    · subst hsame
      exact .inr ⟨rfl, h, get?_insert_self (not_above (by simp [h])) _⟩
    · exact .inl (get?_insert_of_ne hsame tree _)

theorem adds_makeDirectory {p : Path} (h : tree.makeDirectory p = .ok tree') :
    Adds {p.place tree.here} tree tree' := by
  obtain ⟨place, hplace, h⟩ := bind_eq_ok.mp h
  split at h
  · next hnone =>
    cases h
    rw [locate_eq_ok hplace]
    exact adds_insert_directory hnone
  · cases h

theorem adds_ensureDirectory {p : Path} (h : tree.ensureDirectory p = .ok tree') :
    Adds {p.place tree.here} tree tree' := by
  unfold ensureDirectory at h
  split at h
  · next made =>
    cases h
    exact adds_makeDirectory made
  · split at h
    · cases h
      exact .refl _ _
    · cases h

theorem adds_makeDirectories (depth : Nat) (tree : FileTree) (p : Path) :
    Adds (p.way tree.here) tree (makeDirectories depth tree p).1 := by
  have atEnd : {p.place tree.here} ⊆ p.way tree.here :=
    Set.singleton_subset_iff.mpr (p.place_mem_way tree.here)
  induction depth generalizing p with
  | zero =>
    unfold makeDirectories
    split
    · next made => exact (adds_makeDirectory made).mono atEnd
    · next hzero _ => cases hzero
    · split <;> exact .refl _ _
  | succ depth ih =>
    unfold makeDirectories
    split
    · next made => exact (adds_makeDirectory made).mono atEnd
    · next hdepth _ =>
      cases hdepth
      have above :=
        (ih p.parent (Set.singleton_subset_iff.mpr (p.parent.place_mem_way tree.here))).mono
          (p.way_parent tree.here)
      split
      · next hparent =>
        rw [hparent] at above
        exact above
      · next hparent =>
        rw [hparent] at above
        split
        · next made =>
          have last := adds_ensureDirectory made
          rw [above.here] at last
          exact above.trans (last.mono atEnd)
        · exact above
    · split <;> exact .refl _ _

theorem adds_makeParents (tree : FileTree) (p : Path) :
    Adds (p.parent.way tree.here) tree (tree.makeParents p).1 :=
  adds_makeDirectories _ tree _

theorem spares_makeParents (tree : FileTree) (p : Path) : Spares ∅ tree (tree.makeParents p).1 :=
  (adds_makeParents tree p).spares

/-! ## Bytes that are added -/

theorem append_spec {p : Path} {bytes : Bytes} (h : tree.append p bytes = .ok tree') :
    Spares {p.place tree.here} tree tree' ∧
      tree'.file? (p.place tree.here) =
        some ((tree.file? (p.place tree.here)).getD [] ++ bytes) := by
  obtain ⟨place, hplace, h⟩ := bind_eq_ok.mp h
  rw [locate_eq_ok hplace]
  split at h
  · next content hfile =>
    cases h
    have hnot : tree.get? place ≠ some .directory := by simp [hfile]
    refine ⟨spares_insert_file hnot _, ?_⟩
    rw [file?_insert_self (not_above hnot), file?_eq_some.mpr hfile, Option.getD_some]
  · next hnone =>
    cases h
    have hnot : tree.get? place ≠ some .directory := by simp [hnone]
    refine ⟨spares_insert_file hnot _, ?_⟩
    rw [file?_insert_self (not_above hnot), file?, hnone, Option.getD_none, List.nil_append]
  · cases h

/-! ## Files that are replaced -/

theorem get?_erase_temporary {temporary : List Text} (free : tree.get? temporary = none)
    (same : ∀ place ≠ temporary, tree'.get? place = tree.get? place) (here : tree'.here = tree.here)
    (place : List Text) : (tree'.erase temporary).get? place = tree.get? place := by
  have habove : ¬ temporary <+: tree.here := not_above (by simp [free])
  by_cases hplace : place = temporary <;> grind

section

variable {temporary : List Text} {root shown : Text} {target : Path} {content : Text} {f : Fault}

/-- A replacement that fails leaves everything as it was. -/
theorem adds_of_replaceVia_error (free : tree.get? temporary = none)
    (h : tree.replaceVia temporary shown target content = (tree', .error f)) :
    Adds ∅ tree tree' := by
  unfold replaceVia at h
  split at h
  · cases h
    have same : ∀ other ≠ temporary,
        (tree.insert temporary (.file [])).get? other = tree.get? other :=
          fun _ hne => by simp [hne]
    exact ⟨rfl, fun place => .inl (get?_erase_temporary free same rfl place)⟩
  · simp only at h
    split at h
    · cases h
    · cases h
      have same (bytes : Bytes) : ∀ other ≠ temporary,
          ((tree.insert temporary (.file [])).insert temporary (.file bytes)).get? other =
            tree.get? other := fun _ hne => by simp [hne]
      exact ⟨rfl, fun place => .inl (get?_erase_temporary free (same _) rfl place)⟩

/-- A text replaces the file that a path leads to, and nothing else. -/
structure Replaces (tree tree' : FileTree) (target : Path) (content : Text)
    (place : List Text) : Prop where
  here : tree'.here = tree.here
  isScalar : content.IsScalar
  notDirectory : tree.get? place ≠ some .directory
  holds : Holds tree' target place (Utf8.encodeAll content)
  others : ∀ other ≠ place, tree'.get? other = tree.get? other

theorem Replaces.spares {place : List Text} (h : Replaces tree tree' target content place) :
    Spares {place} tree tree' :=
  .of_entry_ne h.here h.notDirectory h.others

theorem Replaces.place_eq {place : List Text} (h : Replaces tree tree' target content place) :
    target.place tree.here = place :=
  h.here ▸ locate_eq_ok h.holds.located

theorem replaceVia_ok (free : tree.get? temporary = none)
    (h : tree.replaceVia temporary shown target content = (tree', .ok ())) :
    ∃ place, Replaces tree tree' target content place := by
  unfold replaceVia at h
  split at h
  · cases h
  · next bytes hencode =>
    obtain rfl : Utf8.encodeAll content = bytes := Utf8.encode_eq_ok hencode
    have habove : ¬ temporary <+: tree.here := not_above (by simp [free])
    simp only at h
    split at h
    · next moved hmoved =>
      cases h
      obtain ⟨bytes, place, hsource, hlocate, hnot, rfl⟩ := replace_eq_ok hmoved
      have written : ∀ other ≠ temporary, ((tree.insert temporary (.file [])).insert temporary
          (.file (Utf8.encodeAll content))).get? other = tree.get? other := fun other hne => by
        simp [hne]
      have erased := get?_erase_temporary free written rfl
      obtain rfl : Utf8.encodeAll content = bytes := by simpa [habove] using hsource
      have hnot' : tree.get? place ≠ some .directory := by
        by_cases hsame : place = temporary
        · simp [hsame, free]
        · rwa [written place hsame] at hnot
      have moved := spares_insert_file (by rwa [erased place]) (Utf8.encodeAll content)
      refine ⟨place, rfl, Utf8.isScalar_of_encode hencode, hnot',
        ⟨moved.locate ((spares_erase (by simp [hsource])).locate hlocate), ?_⟩,
        fun other hne => (get?_insert_of_ne hne _ _).trans (erased other)⟩
      exact file?_insert_self (by simpa using not_above hnot') _
    · cases h

/-- A text that is not written changes no file. All that may be left are directories on the way to
it. -/
theorem adds_of_writeText_error (h : tree.writeText root target content = (tree', .error f)) :
    Adds (target.parent.way tree.here) tree tree' := by
  have parents := adds_makeParents tree target
  rcases tree.writeText_cases root target with ⟨_, hfails⟩ | ⟨temporary, shown, free, hvia⟩
  · rw [hfails] at h
    cases h
    exact parents
  · rw [hvia] at h
    exact parents.trans ((adds_of_replaceVia_error free h).mono (Set.empty_subset _))

theorem writeText_error (h : tree.writeText root target content = (tree', .error f)) :
    Spares ∅ tree tree' :=
  (adds_of_writeText_error h).spares

/-- A text that is written replaces the file that its path leads to, after the directories on the
way have been made. -/
theorem replaces_of_writeText (h : tree.writeText root target content = (tree', .ok ())) :
    Replaces (tree.makeParents target).1 tree' target content (target.place tree.here) := by
  rcases tree.writeText_cases root target with ⟨_, hfails⟩ | ⟨temporary, shown, free, hvia⟩
  · rw [hfails] at h
    cases h
  · rw [hvia] at h
    obtain ⟨place, replaces⟩ := replaceVia_ok free h
    rw [← (adds_makeParents tree target).here, replaces.place_eq]
    exact replaces

/-- A text that is written changes the file that its path leads to, and no other one. -/
theorem writeText_ok (h : tree.writeText root target content = (tree', .ok ())) :
    Spares {target.place tree.here} tree tree' ∧
      Holds tree' target (target.place tree.here) (Utf8.encodeAll content) := by
  have replaces := replaces_of_writeText h
  exact ⟨((spares_makeParents tree target).mono (Set.empty_subset _)).trans replaces.spares,
    replaces.holds⟩

end

/-- Whether a text is written or not, no file changes but the one that its path leads to. -/
theorem spares_writeText (tree : FileTree) (root : Text) (target : Path) (content : Text) :
    Spares {target.place tree.here} tree (tree.writeText root target content).1 := by
  cases hwritten : tree.writeText root target content with
  | mk tree' result =>
    cases result with
    | error f => exact (writeText_error hwritten).mono (Set.empty_subset _)
    | ok => exact (writeText_ok hwritten).1

/-! ## Lines that are added -/

variable [NestingLimits]

def grown (content : Option Bytes) (entries : List LogEntry) : Option Bytes :=
  if entries = [] then content else some (content.getD [] ++ entries.flatMap BuildLog.added)

@[simp] theorem grown_append (content : Option Bytes) (entries later : List LogEntry) :
    grown (grown content entries) later = grown content (entries ++ later) := by
  unfold grown
  by_cases hentries : entries = [] <;> by_cases hlater : later = [] <;> simp [hentries, hlater]

/-- Entries of the build log have been added to the files at some places, the same ones to each, and
no other file has changed. -/
structure Logged (log : Set (List Text)) (tree tree' : FileTree) : Prop where
  spares : Spares log tree tree'
  entries : ∃ entries, ∀ place ∈ log, tree'.file? place = grown (tree.file? place) entries

namespace Logged

variable {log : Set (List Text)} {tree'' : FileTree}

theorem of_spares (h : Spares ∅ tree tree') : Logged log tree tree' :=
  ⟨h.mono (Set.empty_subset _), [], fun place _ => h.files place (Set.notMem_empty place)⟩

theorem refl (log : Set (List Text)) (tree : FileTree) : Logged log tree tree :=
  of_spares (.refl ∅ tree)

theorem trans (h : Logged log tree tree') (h' : Logged log tree' tree'') :
    Logged log tree tree'' := by
  obtain ⟨entries, hentries⟩ := h.entries
  obtain ⟨later, hlater⟩ := h'.entries
  refine ⟨h.spares.trans h'.spares, entries ++ later, fun place hplace => ?_⟩
  rw [hlater place hplace, hentries place hplace, grown_append]

end Logged

end FileTree

section

variable [NestingLimits] {log : BuildLog} {day : Date} {e : LogEntry} {tree tree' made : FileTree}

/-- The file of a day is opened for an entry, and what is added for it goes to the end, whether it
is refused or not. -/
theorem BuildLog.write_of_append (hparents : tree.makeParents (log.file e.category day) =
    (made, .ok ()))
    (happend : made.append (log.file e.category day) (added e) = .ok tree') :
    log.write day e tree = (tree', e.refusal?.elim (.ok ()) .error) ∧
      FileTree.Spares {(log.file e.category day).place tree.here} tree tree' ∧
      tree'.file? ((log.file e.category day).place tree.here) =
        some ((tree.file? ((log.file e.category day).place tree.here)).getD [] ++ added e) := by
  have parents := FileTree.spares_makeParents tree (log.file e.category day)
  rw [hparents] at parents
  obtain ⟨spares, hfile⟩ := FileTree.append_spec happend
  rw [parents.here] at spares hfile
  rw [parents.files _ (Set.notMem_empty _)] at hfile
  refine ⟨?_, (parents.mono (Set.empty_subset _)).trans spares, hfile⟩
  unfold write
  simp only [hparents, happend]
  cases e.refusal? <;> rfl

/-- The file of a day is opened for an entry, and what is added for it goes to the end; or nothing
happens. -/
theorem BuildLog.write_cases (log : BuildLog) (day : Date) (e : LogEntry) (tree : FileTree) :
    FileTree.Spares ∅ tree (log.write day e tree).1 ∧ (log.write day e tree).2.isOk = false ∨
      FileTree.Spares {(log.file e.category day).place tree.here} tree (log.write day e tree).1 ∧
        FileTree.file? (log.write day e tree).1 ((log.file e.category day).place tree.here) =
          some ((tree.file? ((log.file e.category day).place tree.here)).getD [] ++ added e) := by
  have parents := FileTree.spares_makeParents tree (log.file e.category day)
  cases hparents : tree.makeParents (log.file e.category day) with
  | mk made result =>
    rw [hparents] at parents
    cases result with
    | error f =>
      simp only [write, hparents]
      exact .inl ⟨parents, rfl⟩
    | ok =>
      cases happend : made.append (log.file e.category day) (added e) with
      | error f =>
        simp only [write, hparents, happend]
        exact .inl ⟨parents, rfl⟩
      | ok tree' =>
        obtain ⟨hwrite, spares, hfile⟩ := write_of_append hparents happend
        rw [hwrite]
        exact .inr ⟨spares, hfile⟩

end

theorem BuildLog.logged_write [NestingLimits] (log : BuildLog) (day : Date)
    (e : LogEntry) (tree : FileTree) :
    FileTree.Logged {(log.file e.category day).place tree.here} tree (log.write day e tree).1 := by
  rcases log.write_cases day e tree with ⟨spares, -⟩ | ⟨spares, hfile⟩
  · exact .of_spares spares
  · refine ⟨spares, [e], ?_⟩
    rintro place rfl
    rw [hfile, FileTree.grown, if_neg (List.cons_ne_nil e []), List.flatMap_singleton]

end LocaleGen
