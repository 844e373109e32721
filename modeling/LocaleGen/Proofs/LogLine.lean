import LocaleGen.BuildLog.Basic
import LocaleGen.Proofs.Numeral
import LocaleGen.Proofs.Utf8
import Mathlib

/-!
# Lines of the build log

Where everything beyond printable ASCII is escaped, the text of a value is printable ASCII whatever
characters its texts have (`Json.isPlain_write`). So no entry can end its line, and the bytes of a
line are those of its characters: `BuildLog.exists_line`.
-/

namespace LocaleGen

/-! ## Printable ASCII -/

def CodePoint.isPlain (c : CodePoint) : Bool := 0x20 ≤ c.val && c.val ≤ 0x7E

namespace Text

def IsPlain (t : Text) : Prop := ∀ c ∈ t, c.isPlain = true

instance (t : Text) : Decidable t.IsPlain := inferInstanceAs (Decidable (∀ c ∈ t, c.isPlain = true))

variable {t u : Text}

theorem isPlain_nil : IsPlain [] := List.forall_mem_nil _

theorem IsPlain.append (ht : t.IsPlain) (hu : u.IsPlain) : (t ++ u).IsPlain :=
  List.forall_mem_append.mpr ⟨ht, hu⟩

theorem IsPlain.cons {c : CodePoint} (hc : c.isPlain = true) (ht : t.IsPlain) : IsPlain (c :: t) :=
  List.forall_mem_cons.mpr ⟨hc, ht⟩

theorem isPlain_flatMap {f : CodePoint → Text} (h : ∀ c ∈ t, IsPlain (f c)) :
    IsPlain (t.flatMap f) := by
  intro c hc
  obtain ⟨d, hd, hmem⟩ := List.mem_flatMap.mp hc
  exact h d hd c hmem

/-! ## Numerals -/

theorem isPlain_digit {d : Nat} (h : d < 16) : (digit d).isPlain = true := by
  have hval := digit_val h
  split at hval <;> simp [CodePoint.isPlain, hval] <;> omega

theorem isPlain_digits {ds : List Nat} (h : ∀ d ∈ ds, d < 16) : IsPlain (ds.map digit) :=
  List.forall_mem_map.mpr fun d hd => isPlain_digit (h d hd)

theorem padded_lt {base width n : Nat} (hb : 2 ≤ base) :
    ∀ d ∈ padded width (digits base n), d < base := by
  intro d hd
  rcases List.mem_append.mp hd with hd | hd
  · rw [List.eq_of_mem_replicate hd]
    omega
  · exact digits_lt hb n d hd

theorem isPlain_hex (width n : Nat) : IsPlain (hex width n) :=
  isPlain_digits (padded_lt (by decide))

theorem isPlain_decimal (width n : Nat) : IsPlain (decimal width n) :=
  isPlain_digits fun d hd => (padded_lt (by decide) d hd).trans (by decide)

theorem isPlain_ofNat (n : Nat) : IsPlain (ofNat n) :=
  isPlain_digits fun d hd => (digits_lt (by decide) n d hd).trans (by decide)

theorem isPlain_ofInt (i : Int) : IsPlain (ofInt i) := by
  cases i with
  | ofNat n => exact isPlain_ofNat n
  | negSucc n => exact .cons (by decide) (isPlain_ofNat _)

end Text

namespace Binary64

theorem decimalForm_lt (m : Nat) (e : Int) : ∀ d ∈ (decimalForm m e).1, d < 16 := by
  intro d hd
  have hmem := List.mem_reverse.mp ((List.dropWhile_sublist _).subset (List.mem_reverse.mp hd))
  exact (Text.digits_lt (by decide) _ d hmem).trans (by decide)

theorem isPlain_positional {ds : List Nat} (h : ∀ d ∈ ds, d < 16) (k : Int) :
    (positional ds k).IsPlain := by
  have zeros (n : Nat) : ∀ d ∈ List.replicate n 0, d < 16 := fun d hd => by
    rw [List.eq_of_mem_replicate hd]; decide
  unfold positional
  split_ifs
  · exact .append (by decide) (Text.isPlain_digits (List.forall_mem_append.mpr ⟨zeros _, h⟩))
  · exact .append (Text.isPlain_digits (List.forall_mem_append.mpr ⟨h, zeros _⟩)) (by decide)
  · refine .append (.append (Text.isPlain_digits fun d hd => h d (List.mem_of_mem_take hd)) (by decide)) ?_
    exact Text.isPlain_digits fun d hd => h d (List.mem_of_mem_drop hd)

theorem isPlain_exponential {ds : List Nat} (h : ∀ d ∈ ds, d < 16) (k : Int) :
    (exponential ds k).IsPlain := by
  unfold exponential
  refine .append (.append (.append (Text.isPlain_digits fun d hd => h d (List.mem_of_mem_take hd)) ?_) ?_)
    (Text.isPlain_decimal _ _)
  · split
    · exact Text.isPlain_nil
    · exact .cons (by decide) (Text.isPlain_digits fun d hd => h d (List.mem_of_mem_drop hd))
  · split <;> decide

theorem isPlain_render (x : Binary64) : x.render.IsPlain := by
  cases x with
  | nan => decide
  | infinite negative => cases negative <;> decide
  | finite negative m e =>
    refine .append (by cases negative <;> decide) ?_
    split_ifs
    · decide
    · exact isPlain_positional (decimalForm_lt m e) _
    · exact isPlain_exponential (decimalForm_lt m e) _

end Binary64

/-! ## Values -/

namespace Json

theorem isPlain_unitEscape (n : Nat) : (unitEscape n).IsPlain :=
  .append (by decide) (Text.isPlain_hex 4 n)

theorem isPlain_numberEscape (c : CodePoint) : (numberEscape c).IsPlain := by
  unfold numberEscape
  split
  · exact isPlain_unitEscape _
  · exact .append (isPlain_unitEscape _) (isPlain_unitEscape _)

theorem isPlain_writeChar (c : CodePoint) : (writeChar true c).IsPlain := by
  unfold writeChar
  split_ifs with hquote _ _ _ _ _ hnumber
  · have hplain : c.isPlain = true := by
      rcases (Bool.or_eq_true _ _).mp hquote with h | h <;> rw [of_decide_eq_true h] <;> decide
    exact .cons (by decide) (.cons hplain Text.isPlain_nil)
  · decide
  · decide
  · decide
  · decide
  · decide
  · exact isPlain_numberEscape c
  · refine .cons ?_ Text.isPlain_nil
    simp at hnumber
    simp [CodePoint.isPlain]
    omega

theorem isPlain_writeText (t : Text) : (writeText true t).IsPlain :=
  .append (.append (by decide) (Text.isPlain_flatMap fun c _ => isPlain_writeChar c)) (by decide)

theorem isPlain_writeFloat (x : Binary64) : (writeFloat x).IsPlain := by
  cases x with
  | nan => decide
  | infinite negative => cases negative <;> decide
  | finite =>
    rw [writeFloat]
    · exact Binary64.isPlain_render _
    · simp
    · simp

mutual

/-- Values are written in printable ASCII if everything else is escaped. -/
theorem isPlain_write {s : Style} (ascii : s.asciiOnly = true) (comma : s.afterComma.IsPlain)
    (colon : s.afterColon.IsPlain) (v : Json) : (v.write s).IsPlain := by
  cases v with
  | null => rw [write]; decide
  | bool b => rw [write]; cases b <;> decide
  | int i => rw [write]; exact Text.isPlain_ofInt i
  | float x => rw [write]; exact isPlain_writeFloat x
  | text t => rw [write, ascii]; exact isPlain_writeText t
  | list items =>
    rw [write]; exact .append (.append (by decide) (isPlain_writeItems ascii comma colon items))
      (by decide)
  | object members =>
    rw [write]
    exact .append (.append (by decide) (isPlain_writeMembers ascii comma colon members)) (by decide)

theorem isPlain_writeItems {s : Style} (ascii : s.asciiOnly = true) (comma : s.afterComma.IsPlain)
    (colon : s.afterColon.IsPlain) (items : List Json) : (writeItems s items).IsPlain := by
  cases items with
  | nil => rw [writeItems]; exact Text.isPlain_nil
  | cons v rest =>
    have first := isPlain_write ascii comma colon v
    cases rest with
    | nil => rw [writeItems]; exact first
    | cons w rest =>
      rw [writeItems]
      exact .append (.append (.append first (by decide)) comma)
        (isPlain_writeItems ascii comma colon (w :: rest))

theorem isPlain_writeMembers {s : Style} (ascii : s.asciiOnly = true) (comma : s.afterComma.IsPlain)
    (colon : s.afterColon.IsPlain) (members : List (Text × Json)) :
    (writeMembers s members).IsPlain := by
  cases members with
  | nil => rw [writeMembers]; exact Text.isPlain_nil
  | cons m rest =>
    obtain ⟨name, v⟩ := m
    have first : (writeText s.asciiOnly name ++ ":" ++ s.afterColon ++ v.write s).IsPlain := by
      rw [ascii]
      exact .append (.append (.append (isPlain_writeText name) (by decide)) colon)
        (isPlain_write ascii comma colon v)
    cases rest with
    | nil => rw [writeMembers]; exact first
    | cons n rest =>
      rw [writeMembers]
      exact .append (.append (.append first (by decide)) comma)
        (isPlain_writeMembers ascii comma colon (n :: rest))

end

end Json

/-! ## Lines -/

theorem LogEntry.isPlain_render (e : LogEntry) : e.render.IsPlain :=
  Json.isPlain_write rfl Text.isPlain_nil Text.isPlain_nil e.data

/-- The bytes of printable ASCII are the numbers of the characters. -/
theorem Utf8.encodeAll_of_isPlain {t : Text} (h : t.IsPlain) :
    Utf8.encodeAll t = t.map fun c => c.val.toUInt8 := by
  induction t with
  | nil => rfl
  | cons c rest ih =>
    obtain ⟨hc, hrest⟩ := List.forall_mem_cons.mp h
    have hsmall : c.val < 0x80 := by
      simp [CodePoint.isPlain] at hc
      omega
    rw [List.map_cons, ← ih hrest, encodeAll, List.flatMap_cons, encodeChar, if_pos hsmall]
    rfl

namespace BuildLog

def lineEnd : UInt8 := 0x0A

/-- An entry is one line: what it has before its end is printable ASCII. -/
theorem exists_line (e : LogEntry) :
    ∃ body, line e = body ++ [lineEnd] ∧ ∀ b ∈ body, 0x20 ≤ b ∧ b ≤ 0x7E := by
  refine ⟨e.render.map fun c => c.val.toUInt8, ?_, List.forall_mem_map.mpr fun c hc => ?_⟩
  · rw [line, Utf8.encodeAll, List.flatMap_append, ← Utf8.encodeAll,
      Utf8.encodeAll_of_isPlain e.isPlain_render]
    rfl
  · have hplain := e.isPlain_render c hc
    simp only [CodePoint.isPlain, Bool.and_eq_true, decide_eq_true_eq] at hplain
    have hval : c.val.toUInt8.toNat = c.val := Utf8.toNat_toUInt8 (by omega)
    rw [UInt8.le_iff_toNat_le, UInt8.le_iff_toNat_le, hval]
    exact hplain

end BuildLog

end LocaleGen
