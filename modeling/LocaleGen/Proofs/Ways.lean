import LocaleGen.Proofs.FileFrame
import Mathlib

/-!
# Ways to directories and files

A path with one more name leads on from where the path leads, as long as it is not too long to be
one (`FileTree.Admits`): `FileTree.locate_child`. What is missing on the way to a directory is made,
the directory nearest to the root first (`FileTree.makeDirectories_of_notFound`).
-/

namespace LocaleGen

@[simp] theorem Path.parent_child (p : Path) (name : Text) : (p.child name).parent = p := by
  show Path.mk p.root (p.names ++ [name]).dropLast = p
  rw [List.dropLast_concat]

theorem Path.render_child_eq (p : Path) (name : Text) :
    (p.child name).render = Path.PathRoot.text p.root ++ Text.join "/" (p.names ++ [name]) :=
  if_neg fun h => by simp [Path.child] at h

namespace FileTree

variable {tree : FileTree} {p : Path} {name shown : Text} {names place last : List Text}

/-! ## Paths with one more name -/

@[simp] theorem size_append (t u : Text) : size (t ++ u) = size t + size u := by
  unfold size
  rw [← List.sum_eq_foldl, ← List.sum_eq_foldl, ← List.sum_eq_foldl, List.map_append,
    List.sum_append]

/-- A name that a path can go on with. -/
structure IsStep (name : Text) : Prop where
  nonempty : name ≠ []
  ne_here : name ≠ "."
  noSlash : CodePoint.ofChar '/' ∉ name
  noNull : CodePoint.ofChar '\x00' ∉ name
  known : ∀ c ∈ name, isForeign c = false
  short : size name ≤ nameLimit

/-- A name that a file can have in any directory. -/
structure IsFileName (name : Text) : Prop extends IsStep name where
  ne_up : name ≠ up

theorem join_concat {between : Text} (h : names ≠ []) (last : Text) :
    Text.join between (names ++ [last]) = Text.join between names ++ between ++ last := by
  induction names with
  | nil => exact absurd rfl h
  | cons first names ih =>
    cases names with
    | nil => rfl
    | cons second names =>
      show first ++ between ++ Text.join between (second :: names ++ [last]) =
        first ++ between ++ Text.join between (second :: names) ++ between ++ last
      rw [ih (List.cons_ne_nil _ _)]
      simp only [List.append_assoc]

/-- A path as it is written, before one more name. -/
theorem render_child (p : Path) (name : Text) :
    ∃ front, (p.child name).render = front ++ name ∧ (front = [] ∨ front = p.render ∨
      front = p.render ++ "/") := by
  rw [Path.render_child_eq]
  by_cases hnames : p.names = []
  · refine ⟨Path.PathRoot.text p.root, by rw [hnames]; rfl, ?_⟩
    by_cases hroot : p.root = .relative
    · rw [hroot]
      exact .inl rfl
    · refine .inr (.inl ?_)
      rw [Path.render, if_neg fun h => hroot h.1, hnames]
      exact (List.append_nil _).symm
  · refine ⟨p.render ++ "/", ?_, .inr (.inr rfl)⟩
    rw [join_concat hnames, Path.render, if_neg fun h => hnames h.2]
    simp only [List.append_assoc]

theorem checkPath_eq_ok : checkPath p = .ok () ↔
    (∀ c ∈ p.render, isForeign c = false) ∧ CodePoint.ofChar '\x00' ∉ p.render := by
  have hdrop : p.render.dropWhile (fun c => !isForeign c) = [] ↔
      ∀ c ∈ p.render, isForeign c = false := by
    simp [List.dropWhile_eq_nil_iff]
  unfold checkPath
  simp only
  split
  · next hsome =>
    rw [← hdrop, hsome]
    simp
  · next hnil =>
    rw [← hdrop]
    by_cases hnull : CodePoint.ofChar '\x00' ∈ p.render
    · simp [hnull]
    · simp [hnull, hnil]

theorem checkPath_child (h : checkPath p = .ok ()) (hname : IsStep name) :
    checkPath (p.child name) = .ok () := by
  obtain ⟨hknown, hnull⟩ := checkPath_eq_ok.mp h
  obtain ⟨front, hrender, hfront⟩ := render_child p name
  have hslash : isForeign (CodePoint.ofChar '/') = false := by decide
  have hother : ¬ CodePoint.ofChar '\x00' = CodePoint.ofChar '/' := by decide
  rw [checkPath_eq_ok, hrender, List.forall_mem_append, List.mem_append, not_or]
  suffices (∀ c ∈ front, isForeign c = false) ∧ CodePoint.ofChar '\x00' ∉ front from
    ⟨⟨this.1, hname.known⟩, this.2, hname.noNull⟩
  rcases hfront with rfl | rfl | rfl
  · exact ⟨List.forall_mem_nil _, List.not_mem_nil⟩
  · exact ⟨hknown, hnull⟩
  · rw [List.forall_mem_append, List.mem_append, not_or]
    exact ⟨⟨hknown, List.forall_mem_singleton.mpr hslash⟩,
      hnull, fun h => hother (List.mem_singleton.mp h)⟩

theorem size_render_child (p : Path) (name : Text) :
    size (p.child name).render ≤ size p.render + 1 + size name := by
  obtain ⟨front, hrender, hfront⟩ := render_child p name
  have hslash : size "/" = 1 := by decide
  rw [hrender, size_append]
  rcases hfront with rfl | rfl | rfl
  · have hnil : size [] = 0 := rfl
    omega
  · omega
  · rw [size_append, hslash]

/-! ## Places with one more name -/

theorem walk_append (place names more : List Text) :
    tree.walk shown place (names ++ more) =
      (tree.walk shown place names >>= fun last => tree.walk shown last more) := by
  induction names generalizing place with
  | nil => rfl
  | cons name names ih =>
    rw [List.cons_append]
    simp only [walk]
    split
    · rfl
    · rfl
    · split_ifs
      · rfl
      · exact ih _

/-- What a path is called in a complaint does not matter while there is none. -/
theorem walk_shown (h : tree.walk shown place names = .ok last) (shown' : Text) :
    tree.walk shown' place names = .ok last := by
  induction names generalizing place with
  | nil => exact h
  | cons name names ih =>
    simp only [walk] at h ⊢
    split at h
    · cases h
    · cases h
    · split_ifs at h ⊢
      exact ih h

theorem walk_notFound (h : tree.walk shown place names = .error (.notFound shown)) (shown' : Text) :
    tree.walk shown' place names = .error (.notFound shown') := by
  induction names generalizing place with
  | nil => cases h
  | cons name names ih =>
    simp only [walk] at h ⊢
    split at h
    · rfl
    · cases h
    · split_ifs at h ⊢
      · cases h
      · exact ih h

theorem locate_eq (hchecked : checkPath p = .ok ()) (hsize : size p.render ≤ pathLimit) :
    tree.locate p = (tree.walk p.render (tree.start p) p.names).mapError .file := by
  rw [locate, hchecked]
  exact if_neg (Nat.not_lt.mpr hsize)

/-- A path that one can go on from to names of files and directories. -/
structure Admits (p : Path) (room : Nat) : Prop where
  checked : checkPath p = .ok ()
  size_le : size p.render + room ≤ pathLimit

theorem Admits.child {room : Nat} (h : Admits p (room + (size name + 1))) (hname : IsStep name) :
    Admits (p.child name) room where
  checked := checkPath_child h.checked hname
  size_le := by
    have hsize := size_render_child p name
    have hroom := h.size_le
    omega

theorem Admits.locate {room : Nat} (h : Admits p room) :
    tree.locate p = (tree.walk p.render (tree.start p) p.names).mapError .file :=
  locate_eq h.checked (by have := h.size_le; omega)

theorem locate_child {room room' : Nat} (h : Admits p room) (hchild : Admits (p.child name) room')
    (hname : IsStep name) (hlocate : tree.locate p = .ok place) : tree.locate (p.child name) =
      match tree.get? place with
      | none => .error (.file (.notFound (p.child name).render))
      | some (.file _) => .error (.file (.notDirectory (p.child name).render))
      | some .directory => .ok (next place name) := by
  rw [h.locate] at hlocate
  have hwalk := walk_shown (mapError_eq_ok.mp hlocate) (p.child name).render
  rw [hchild.locate]
  show (tree.walk _ (tree.start p) (p.names ++ [name])).mapError _ = _
  rw [walk_append, hwalk]
  show (tree.walk _ place [name]).mapError _ = _
  simp only [walk]
  cases tree.get? place with
  | none => rfl
  | some entry =>
    cases entry with
    | file content => rfl
    | directory =>
      simp only [if_neg (Nat.not_lt.mpr hname.short)]
      rfl

/-- Below what is not there nothing is found. -/
theorem locate_child_of_notFound {room room' : Nat} (h : Admits p room)
    (hchild : Admits (p.child name) room')
    (hlocate : tree.locate p = .error (.file (.notFound p.render))) :
    tree.locate (p.child name) = .error (.file (.notFound (p.child name).render)) := by
  rw [h.locate] at hlocate
  obtain ⟨e, hwalk, he⟩ := mapError_eq_error.mp hlocate
  cases he
  rw [hchild.locate]
  show (tree.walk _ (tree.start p) (p.names ++ [name])).mapError _ = _
  rw [walk_append, walk_notFound hwalk]
  rfl

/-! ## Directories and files that are made -/

theorem makeDirectory_of_none (hlocate : tree.locate p = .ok place)
    (hnone : tree.get? place = none) :
    tree.makeDirectory p = .ok (tree.insert place .directory) := by
  unfold makeDirectory
  simp only [hlocate, bind, Except.bind, hnone]

theorem makeDirectories_of_none (depth : Nat) (hlocate : tree.locate p = .ok place)
    (hnone : tree.get? place = none) :
    makeDirectories depth tree p = (tree.insert place .directory, .ok ()) := by
  unfold makeDirectories
  simp only [makeDirectory_of_none hlocate hnone]

theorem makeDirectory_of_directory (hlocate : tree.locate p = .ok place)
    (hdirectory : tree.get? place = some .directory) :
    tree.makeDirectory p = .error (.file (.exists p.render)) := by
  unfold makeDirectory
  simp only [hlocate, bind, Except.bind, hdirectory]

theorem isDirectory_of_directory (hlocate : tree.locate p = .ok place)
    (hdirectory : tree.get? place = some .directory) : tree.isDirectory p = true := by
  unfold isDirectory lookup
  simp only [hlocate, bind, Except.bind, hdirectory]

theorem makeDirectories_of_directory (depth : Nat) (hlocate : tree.locate p = .ok place)
    (hdirectory : tree.get? place = some .directory) :
    makeDirectories depth tree p = (tree, .ok ()) := by
  unfold makeDirectories
  simp only [makeDirectory_of_directory hlocate hdirectory,
    isDirectory_of_directory hlocate hdirectory, if_true]

theorem ensureDirectory_of_none (hlocate : tree.locate p = .ok place)
    (hnone : tree.get? place = none) :
    tree.ensureDirectory p = .ok (tree.insert place .directory) := by
  rw [ensureDirectory, makeDirectory_of_none hlocate hnone]

theorem ensureDirectory_of_directory (hlocate : tree.locate p = .ok place)
    (hdirectory : tree.get? place = some .directory) : tree.ensureDirectory p = .ok tree := by
  rw [ensureDirectory, makeDirectory_of_directory hlocate hdirectory]
  exact if_pos (isDirectory_of_directory hlocate hdirectory)

/-- What is missing above a path is made first. -/
theorem makeDirectories_of_notFound {depth : Nat} {made made' : FileTree}
    (hlocate : tree.locate p = .error (.file (.notFound p.render)))
    (hparent : makeDirectories depth tree p.parent = (made, .ok ()))
    (hmade : made.ensureDirectory p = .ok made') :
    makeDirectories (depth + 1) tree p = (made', .ok ()) := by
  have hmissing : tree.makeDirectory p = .error (.file (.notFound p.render)) := by
    unfold makeDirectory
    simp only [hlocate, bind, Except.bind]
  unfold makeDirectories
  simp only [hmissing, hparent, hmade]

theorem append_of_file {content : Option Bytes} {bytes : Bytes}
    (hlocate : tree.locate p = .ok place) (hentry : tree.get? place = content.map .file) :
    tree.append p bytes = .ok (tree.insert place (.file (content.getD [] ++ bytes))) := by
  unfold append
  cases content <;> simp only [hlocate, bind, Except.bind, hentry] <;> rfl

theorem find?_of_locate {content : Option Bytes} (hlocate : tree.locate p = .ok place)
    (hentry : tree.get? place = content.map .file) : tree.find? p = .ok (content.map .file) := by
  unfold find? lookup
  cases content <;> simp only [hlocate, bind, Except.bind, hentry] <;> rfl

theorem find?_of_notFound (hlocate : tree.locate p = .error (.file (.notFound p.render))) :
    tree.find? p = .ok none := by
  unfold find? lookup
  simp only [hlocate, bind, Except.bind]

end FileTree

end LocaleGen
