import LocaleGen.Artifact.Template
import LocaleGen.Text.Unescape
import Mathlib

/-!
# Filled templates read back

A piece of source text spells a field if it is read as the field wherever a gap of its kind may end
(`Spells`). A template whose pieces spell fields is read as these fields, whatever follows it
(`Template.read_fill`), and so are rows of it one after the other, in front of anything that does
not start like them (`readMany_flatten`).
-/

namespace LocaleGen

open Text

/-! ## Pieces -/

def Lexis.ends (l : Lexis) (kind : Kind) (c : CodePoint) : Bool :=
  match kind with
  | .name => !l.isNamePart c
  | .literal => c ≠ CodePoint.ofChar '"'
  | .whole => !c.isDigit
  | .flag => true

/-- A piece of plain source text that is read as a field. -/
structure Spells (l : Lexis) (plain : CodePoint → Bool) (kind : Kind) (piece : Text)
    (field : Field) : Prop where
  plain : piece.all plain = true
  read : ∀ (c : CodePoint) (left : Text), l.ends kind c = true →
    l.readField kind (piece ++ c :: left) = some (field, c :: left)

/-- Pieces that spell the fields for gaps. -/
inductive Fits (l : Lexis) (plain : CodePoint → Bool) : List (Kind × Text) → List Text →
    List Field → Prop where
  | nil : Fits l plain [] [] []
  | cons {kind : Kind} {after piece : Text} {field : Field} {gaps : List (Kind × Text)}
      {pieces : List Text}
      {fields : List Field} : Spells l plain kind piece field → Fits l plain gaps pieces fields →
      Fits l plain ((kind, after) :: gaps) (piece :: pieces) (field :: fields)

variable {l : Lexis} {plain : CodePoint → Bool}

/-! ## Templates -/

namespace Template

def isSound (template : Template) (l : Lexis) (plain : CodePoint → Bool) : Bool :=
  !template.opening.isEmpty && template.opening.all plain &&
    template.gaps.all fun gap => gap.2.all plain && gap.2.head?.any (l.ends gap.1)

theorem readGaps_fillGaps {gaps : List (Kind × Text)} {pieces : List Text} {fields : List Field}
    (hgaps : gaps.all (fun gap => gap.2.all plain && gap.2.head?.any (l.ends gap.1)) = true)
    (h : Fits l plain gaps pieces fields) (left : Text) :
    l.readGaps gaps (fillGaps gaps pieces ++ left) = some (fields, left) := by
  induction h with
  | nil => rfl
  | @cons kind after piece field gaps pieces fields hpiece _ ih =>
    simp only [List.all_cons, Bool.and_eq_true] at hgaps
    obtain ⟨⟨-, hend⟩, hgaps⟩ := hgaps
    cases after with
    | nil => cases hend
    | cons c after =>
      have hread := hpiece.read c (after ++ (fillGaps gaps pieces ++ left)) (by simpa using hend)
      have hafter := dropStart?_append (c :: after) (fillGaps gaps pieces ++ left)
      simp only [List.cons_append] at hafter
      simp [fillGaps, Lexis.readGaps, hread, hafter, ih hgaps]

theorem all_fillGaps {gaps : List (Kind × Text)} {pieces : List Text} {fields : List Field}
    (hgaps : gaps.all (fun gap => gap.2.all plain && gap.2.head?.any (l.ends gap.1)) = true)
    (h : Fits l plain gaps pieces fields) : (fillGaps gaps pieces).all plain = true := by
  induction h with
  | nil => rfl
  | cons hpiece _ ih =>
    simp only [List.all_cons, Bool.and_eq_true] at hgaps
    obtain ⟨⟨hafter, -⟩, hgaps⟩ := hgaps
    rw [fillGaps, List.all_append, List.all_append, hpiece.plain, hafter, ih hgaps]
    rfl

variable {template : Template} {pieces : List Text} {fields : List Field}

theorem read_fill (hsound : template.isSound l plain = true)
    (h : Fits l plain template.gaps pieces fields) (left : Text) :
    template.read l (template.fill pieces ++ left) = some (fields, left) := by
  simp only [isSound, Bool.and_eq_true] at hsound
  rw [read, fill, List.append_assoc, dropStart?_append]
  exact readGaps_fillGaps hsound.2 h left

theorem all_fill (hsound : template.isSound l plain = true)
    (h : Fits l plain template.gaps pieces fields) : (template.fill pieces).all plain = true := by
  simp only [isSound, Bool.and_eq_true] at hsound
  rw [fill, List.all_append, hsound.1.2, all_fillGaps hsound.2 h]
  rfl

end Template

/-! ## Repetition -/

/-- Whether two texts differ within the length of the shorter one. -/
def diverges (t u : Text) : Bool :=
  match t, u with
  | c :: t, d :: u => c ≠ d || diverges t u
  | _, _ => false

theorem not_start_of_diverges {t u : Text} (h : diverges t u = true) (left : Text) :
    ¬ t <+: u ++ left := by
  fun_induction diverges t u with
  | case1 c t d u ih =>
    rw [List.cons_append, List.cons_prefix_cons]
    rintro ⟨rfl, hrest⟩
    exact ih (by simpa using h) hrest
  | case2 => cases h

/-- Items one after the other are read in front of what does not start like them. `P` is what each
of them has to be in front of. -/
theorem readMany_flatten {α : Type} {opening left : Text} {item : Text → Option (α × Text)}
    {P : Text → Prop} {us : List Text} {as : List α} {fuel : Nat}
    (hitem : List.Forall₂ (fun u a => opening <+: u ∧
      ∀ left, P left → item (u ++ left) = some (a, left)) us as)
    (hnext : ∀ u ∈ us, ∀ left, P (u ++ left)) (hleft : P left) (hstop : ¬ opening <+: left)
    (hfuel : us.length < fuel) :
    readMany opening item fuel (us.flatten ++ left) = some (as, left) := by
  induction hitem generalizing fuel with
  | nil =>
    obtain ⟨fuel, rfl⟩ : ∃ k, fuel = k + 1 := ⟨fuel - 1, by simp at hfuel; omega⟩
    rw [List.flatten_nil, List.nil_append, readMany, dropStart?_eq_none.mpr hstop]
    rfl
  | @cons u a us as hu _ ih =>
    obtain ⟨fuel, rfl⟩ : ∃ k, fuel = k + 1 := ⟨fuel - 1, by simp at hfuel; omega⟩
    have hmore : P (us.flatten ++ left) := by
      cases us with
      | nil => exact hleft
      | cons v us =>
        rw [List.flatten_cons, List.append_assoc]
        exact hnext v (by simp) _
    have hstart : (dropStart? (u ++ (us.flatten ++ left)) opening).isSome = true := by
      rw [Option.isSome_iff_ne_none]
      intro hnone
      exact dropStart?_eq_none.mp hnone (hu.1.trans (List.prefix_append _ _))
    have hrest : readMany opening item fuel (us.flatten ++ left) = some (as, left) :=
      ih (fun v hv => hnext v (by simp [hv])) (by simpa using hfuel)
    rw [List.flatten_cons, List.append_assoc, readMany, if_pos hstart, hu.2 _ hmore]
    simp [hrest]

theorem length_le_flatten {us : List Text} (h : ∀ u ∈ us, u ≠ []) :
    us.length ≤ us.flatten.length := by
  induction us with
  | nil => rfl
  | cons u us ih =>
    have hu := List.length_pos_of_ne_nil (h u (by simp))
    have hus := ih fun v hv => h v (by simp [hv])
    simp only [List.length_cons, List.flatten_cons, List.length_append]
    omega

end LocaleGen
