import LocaleGen.FileTree
import LocaleGen.Proofs.Result
import LocaleGen.Proofs.Utf8
import Mathlib

/-!
# Files read back

A path is followed through directories only, so it leads to the same place as long as directories
stay directories (`Keeps.locate`). To replace a file changes no directory, so the file that takes
the place of another one is found under the path that it was moved to (`readBytes_of_replace`), and
a text that is written can be read (`readText_of_writeText`).

Whether a text is written does not depend on the text, if it can be encoded (`result_writeText`):
the trees on the way differ in what is in the temporary file only.
-/

namespace LocaleGen

namespace FileTree

variable {tree tree' : FileTree} {place other : List Text}

/-! ## Entries -/

@[simp, grind =] theorem here_insert (tree : FileTree) (place : List Text) (e : FileEntry) :
    (tree.insert place e).here = tree.here := by
  rw [insert]

@[simp, grind =] theorem here_erase (tree : FileTree) (place : List Text) :
    (tree.erase place).here = tree.here := by
  rw [erase]

@[simp, grind =] theorem get?_above (h : place <+: tree.here) :
    tree.get? place = some .directory := if_pos h

@[simp] theorem get?_here (tree : FileTree) : tree.get? tree.here = some .directory :=
  get?_above (List.prefix_refl _)

@[simp] theorem get?_nil (tree : FileTree) : tree.get? [] = some .directory :=
  get?_above List.nil_prefix

theorem not_above (h : tree.get? place ≠ some .directory) : ¬ place <+: tree.here :=
  fun above => h (get?_above above)

@[simp, grind =] theorem get?_insert_self (h : ¬ place <+: tree.here) (e : FileEntry) :
    (tree.insert place e).get? place = some e := by
  rw [get?, here_insert, if_neg h]
  exact (Dict.get?_insert _ _ _ _).trans (if_pos rfl)

@[simp, grind =] theorem get?_insert_of_ne (h : other ≠ place) (tree : FileTree) (e : FileEntry) :
    (tree.insert place e).get? other = tree.get? other := by
  have hget : (tree.insert place e).entries.get? other = tree.entries.get? other :=
    (Dict.get?_insert _ _ _ _).trans (if_neg h)
  rw [get?, get?, here_insert, hget]

@[simp, grind =] theorem get?_erase_self (h : ¬ place <+: tree.here) :
    (tree.erase place).get? place = none := by
  rw [get?, here_erase, if_neg h]
  simp [erase]

@[simp, grind =] theorem get?_erase_of_ne (h : other ≠ place) (tree : FileTree) :
    (tree.erase place).get? other = tree.get? other := by
  have hget : (tree.erase place).entries.get? other = tree.entries.get? other := by
    simp [erase, h]
  rw [get?, get?, here_erase, hget]

/-! ## Paths through directories -/

/-- Names that lead to a place lead there in every tree that has the same directories and maybe
more. -/
theorem walk_of_directories (directories : ∀ place, tree.get? place = some .directory →
    tree'.get? place = some .directory) {shown : Text} {last names : List Text}
    (h : tree.walk shown place names = .ok last) : tree'.walk shown place names = .ok last := by
  induction names generalizing place with
  | nil => exact h
  | cons name rest ih =>
    cases hentry : tree.get? place with
    | none => simp [walk, hentry] at h
    | some entry =>
      cases entry with
      | file content => simp [walk, hentry] at h
      | directory =>
        simp only [walk, hentry, directories place hentry] at h ⊢
        split at h
        · cases h
        · next hsize =>
          rw [if_neg hsize]
          exact ih h

/-- What has to be the same for the same paths to lead to the same places: the working directory and
what else is a directory. -/
structure Keeps (tree tree' : FileTree) : Prop where
  here : tree'.here = tree.here
  directories : ∀ place, tree.get? place = some .directory → tree'.get? place = some .directory

theorem Keeps.locate (h : Keeps tree tree') {path : Path} (hlocate : tree.locate path = .ok place) :
    tree'.locate path = .ok place := by
  simp only [FileTree.locate, bind_eq_ok] at hlocate ⊢
  obtain ⟨checked, hchecked, hlocate⟩ := hlocate
  refine ⟨checked, hchecked, ?_⟩
  have hstart : tree'.start path = tree.start path := by rw [start, start, h.here]
  split at hlocate
  · cases hlocate
  · next hlimit =>
    rw [if_neg hlimit, hstart]
    exact mapError_eq_ok.mpr (walk_of_directories h.directories (mapError_eq_ok.mp hlocate))

theorem Keeps.of_entry_ne (here : tree'.here = tree.here) (h : tree.get? place ≠ some .directory)
    (same : ∀ other ≠ place, tree'.get? other = tree.get? other) : Keeps tree tree' where
  here := here
  directories other hother := by
    have hne : other ≠ place := by
      rintro rfl
      exact h hother
    rw [same other hne, hother]

theorem keeps_insert (h : tree.get? place ≠ some .directory) (e : FileEntry) :
    Keeps tree (tree.insert place e) :=
  .of_entry_ne rfl h fun _ hne => get?_insert_of_ne hne tree e

theorem keeps_erase (h : tree.get? place ≠ some .directory) : Keeps tree (tree.erase place) :=
  .of_entry_ne rfl h fun _ hne => get?_erase_of_ne hne tree

/-! ## Replaced files -/

/-- A move that succeeds puts the file to where no directory is. -/
theorem replace_eq_ok {source : List Text} {shown : Text} {target : Path}
    (h : tree.replace source shown target = .ok tree') :
    ∃ content place, tree.get? source = some (.file content) ∧ tree.locate target = .ok place ∧
      tree.get? place ≠ some .directory ∧
      tree' = (tree.erase source).insert place (.file content) := by
  unfold replace at h
  split at h
  · cases h
  · obtain ⟨place, hplace, h⟩ := bind_eq_ok.mp h
    split at h
    · next content old hsource hold =>
      cases h
      exact ⟨content, place, hsource, hplace, by simp [hold], rfl⟩
    · next content hsource hnone =>
      cases h
      exact ⟨content, place, hsource, hplace, by simp [hnone], rfl⟩
    · cases h

/-- The file that is moved to a path is found there. -/
theorem readBytes_of_replace {source : List Text} {shown : Text} {target : Path}
    (h : tree.replace source shown target = .ok tree') :
    ∃ content, tree.get? source = some (.file content) ∧ tree'.readBytes target = .ok content := by
  obtain ⟨content, place, hsource, hplace, hnot, rfl⟩ := replace_eq_ok h
  refine ⟨content, hsource, ?_⟩
  have herased : Keeps tree (tree.erase source) := keeps_erase (by simp [hsource])
  have hnot' : (tree.erase source).get? place ≠ some .directory := by
    by_cases hsame : place = source
    · have habove : ¬ place <+: tree.here := not_above hnot
      rw [hsame] at habove ⊢
      simp [habove]
    · simpa [hsame] using hnot
  have hlocate := (keeps_insert hnot' (.file content)).locate (herased.locate hplace)
  have hlookup : ((tree.erase source).insert place (.file content)).lookup target =
      .ok (.file content) := by
    refine bind_eq_ok.mpr ⟨place, hlocate, ?_⟩
    rw [get?_insert_self (not_above hnot')]
  rw [readBytes, hlookup]
  rfl

/-- A text without carriage returns that has been written is read. -/
theorem readText_of_replaceVia {temporary : List Text} (free : tree.get? temporary = none)
    {shown content : Text} {target : Path} (hscalar : content.IsScalar)
    (hreturn : CodePoint.ofChar '\r' ∉ content)
    (h : tree.replaceVia temporary shown target content = (tree', .ok ())) :
    tree'.readText target = .ok content := by
  have habove : ¬ temporary <+: tree.here := not_above (by simp [free])
  simp only [replaceVia, Utf8.encode_of_isScalar hscalar] at h
  split at h
  · next replaced hreplaced =>
    cases h
    obtain ⟨bytes, hsource, hread⟩ := readBytes_of_replace hreplaced
    obtain rfl : Utf8.encodeAll content = bytes := by simpa [habove] using hsource
    simp only [readText, hread]
    show ((Utf8.decode (Utf8.encodeAll content)).mapError _ >>= _) = _
    rw [Utf8.decode_encodeAll hscalar]
    exact congrArg Except.ok (Text.normalizeNewlines_of_notMem hreturn)
  · cases h

/-! ## Names that are not taken -/

theorem length_le_foldl_max (lengths : List Nat) (start : Nat) :
    start ≤ lengths.foldl max start ∧ ∀ n ∈ lengths, n ≤ lengths.foldl max start := by
  induction lengths generalizing start with
  | nil => simp
  | cons n rest ih =>
    obtain ⟨hstart, hrest⟩ := ih (max start n)
    exact ⟨(le_max_left _ _).trans hstart,
      List.forall_mem_cons.mpr ⟨(le_max_right _ _).trans hstart, hrest⟩⟩

theorem freshName_notMem (taken : List Text) (name : Text) : freshName taken name ∉ taken := by
  unfold freshName
  split
  · intro hmem
    have hlong := (length_le_foldl_max (taken.map List.length) 0).2 _ (List.mem_map_of_mem hmem)
    simp only [List.length_append, List.length_replicate] at hlong
    omega
  · assumption

/-- Nothing stands under a name that a directory does not list. -/
theorem get?_of_notMem_names {directory : List Text} {name : Text}
    (h : name ∉ tree.names directory) : tree.get? (directory ++ [name]) = none := by
  have listed : directory ++ [name] ∈
      tree.entries.keys ++ (List.range (tree.here.length + 1)).map (fun n => tree.here.take n) →
        name ∈ tree.names directory :=
    fun hmem => List.mem_filterMap.mpr ⟨directory ++ [name], hmem, by simp⟩
  have habove : ¬ directory ++ [name] <+: tree.here := by
    intro hprefix
    refine h (listed (List.mem_append_right _ (List.mem_map.mpr ⟨(directory ++ [name]).length, ?_, ?_⟩)))
    · rw [List.mem_range]
      exact Nat.lt_succ_of_le hprefix.length_le
    · exact (List.prefix_iff_eq_take.mp hprefix).symm
  rw [get?, if_neg habove]
  by_contra hfound
  exact h (listed (List.mem_append_left _ (Dict.mem_keys_iff.mpr (Option.isSome_iff_ne_none.mpr hfound))))

/-! ## Written files -/

/-- What writing a text comes down to: it fails before there is a temporary file, or one is made and
moved. -/
theorem writeText_cases (tree : FileTree) (root : Text) (target : Path) :
    (∃ error, ∀ content, tree.writeText root target content = ((tree.makeParents target).1,
      .error error)) ∨
      ∃ temporary shown, FileTree.get? (tree.makeParents target).1 temporary = none ∧
        ∀ content, tree.writeText root target content =
          FileTree.replaceVia (tree.makeParents target).1 temporary shown target content := by
  unfold writeText
  rcases tree.makeParents target with ⟨tree', error | made⟩
  · exact .inl ⟨error, fun _ => rfl⟩
  · simp only
    cases checkPath target with
    | error error => exact .inl ⟨error, fun _ => rfl⟩
    | ok checked =>
      cases tree'.locate target.parent with
      | error error => exact .inl ⟨error, fun _ => rfl⟩
      | ok directory =>
        by_cases hroom : HasRoom target directory
        · simp only [if_pos hroom]
          exact .inr ⟨_, _, get?_of_notMem_names (freshName_notMem _ _), fun _ => rfl⟩
        · simp only [if_neg hroom]
          exact .inl ⟨_, fun _ => rfl⟩

theorem readText_of_writeText {root content : Text} {target : Path} (hscalar : content.IsScalar)
    (hreturn : CodePoint.ofChar '\r' ∉ content)
    (h : tree.writeText root target content = (tree', .ok ())) :
    tree'.readText target = .ok content := by
  rcases tree.writeText_cases root target with ⟨_, hfails⟩ | ⟨temporary, shown, hfree, hvia⟩
  · rw [hfails] at h
    cases h
  · rw [hvia] at h
    exact readText_of_replaceVia hfree hscalar hreturn h

/-! ## Trees that differ in the content of files -/

/-- Nothing, directories, or files of whatever content. -/
inductive SameKind : Option FileEntry → Option FileEntry → Prop
  | none : SameKind none none
  | directory : SameKind (some .directory) (some .directory)
  | file (content content' : Bytes) : SameKind (some (.file content)) (some (.file content'))

theorem SameKind.refl (e : Option FileEntry) : SameKind e e := by
  rcases e with _ | content | _
  · exact .none
  · exact .file content content
  · exact .directory

/-- In every place stands the same kind of thing. -/
structure SameNames (a b : FileTree) : Prop where
  here : a.here = b.here
  kinds : ∀ place, SameKind (a.get? place) (b.get? place)

theorem sameNames_insert (tree : FileTree) (place : List Text) (content content' : Bytes) :
    SameNames (tree.insert place (.file content)) (tree.insert place (.file content')) where
  here := rfl
  kinds other := by
    by_cases hsame : other = place
    · subst hsame
      by_cases habove : other <+: tree.here
      · simp [habove, SameKind.directory]
      · simp [habove, SameKind.file]
    · simp [hsame, SameKind.refl]

theorem SameNames.walk (h : SameNames tree tree') (shown : Text) (place names : List Text) :
    tree.walk shown place names = tree'.walk shown place names := by
  induction names generalizing place with
  | nil => rfl
  | cons name rest ih =>
    have hkind := h.kinds place
    simp only [FileTree.walk]
    generalize tree.get? place = e, tree'.get? place = e' at hkind ⊢
    cases hkind with
    | none | file => rfl
    | directory => simp only [ih]

theorem SameNames.locate (h : SameNames tree tree') (path : Path) :
    tree.locate path = tree'.locate path := by
  simp only [FileTree.locate, start, h.here, h.walk]

/-- Whether a file can be moved does not depend on what is in files. -/
theorem SameNames.replace (h : SameNames tree tree') (source : List Text)
    (shown : Text) (target : Path) :
    (tree.replace source shown target).map (fun _ => ()) =
      (tree'.replace source shown target).map fun _ => () := by
  unfold FileTree.replace
  rw [h.locate]
  split
  · rfl
  · cases tree'.locate target with
    | error error => rfl
    | ok place =>
      have hsource := h.kinds source
      have hplace := h.kinds place
      simp only [bind, Except.bind]
      generalize tree.get? source = s, tree'.get? source = s' at hsource ⊢
      generalize tree.get? place = e, tree'.get? place = e' at hplace ⊢
      cases hsource <;> cases hplace <;> rfl

theorem result_replaceVia {content : Text} (h : content.IsScalar) (tree : FileTree)
    (temporary : List Text) (shown : Text) (target : Path) :
    (tree.replaceVia temporary shown target content).2 =
      (((tree.insert temporary (.file [])).insert temporary
        (.file (Utf8.encodeAll content))).replace temporary
        shown target).map fun _ => () := by
  simp only [replaceVia, Utf8.encode_of_isScalar h]
  split
  · next replaced hreplaced => rw [hreplaced]; rfl
  · next error hfails => rw [hfails]; rfl

/-- Whether a text without surrogates is written does not depend on the text. -/
theorem result_writeText {content : Text} (h : content.IsScalar) (tree : FileTree)
    (root : Text) (target : Path) :
    (tree.writeText root target content).2 = (tree.writeText root target []).2 := by
  rcases tree.writeText_cases root target with ⟨_, hfails⟩ | ⟨temporary, shown, -, hvia⟩
  · rw [hfails, hfails]
  · have hnil : Text.IsScalar [] := List.forall_mem_nil _
    rw [hvia, hvia, result_replaceVia h, result_replaceVia hnil]
    exact (sameNames_insert _ _ _ _).replace _ _ _

end FileTree

end LocaleGen
