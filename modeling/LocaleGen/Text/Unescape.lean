import LocaleGen.Text.Numeral

/-!
# Reading literals with escapes

What literals of different languages have in common. `scanBody` finds the end of a body, in which a
backslash protects the character after it. `unescape` replaces the escapes of a body; what an escape
stands for is up to the language, whose reader gets the text after the backslash.

An `Image` of a character is how a body may spell it, and a body of images reads back:

* `scanBody_images`: the body ends at the quote after the images, not before;
* `unescape_images`: it stands for the characters that the images are of.
-/

namespace LocaleGen.Text

@[simp] theorem dropStart?_append (start t : Text) : dropStart? (start ++ t) start = some t := by
  induction start with
  | nil => cases t <;> rfl
  | cons c start ih => simpa [dropStart?] using ih

theorem eq_append_of_dropStart? {t start left : Text} (h : dropStart? t start = some left) :
    t = start ++ left := by
  induction start generalizing t with
  | nil => cases t <;> simp_all [dropStart?]
  | cons c start ih =>
    cases t with
    | nil => simp [dropStart?] at h
    | cons d t =>
      simp only [dropStart?] at h
      split at h
      · next e => rw [ih h, e]; rfl
      · cases h

theorem dropStart?_eq_none {t start : Text} : dropStart? t start = none ↔ ¬ start <+: t := by
  constructor
  · rintro h ⟨left, rfl⟩
    rw [dropStart?_append] at h
    cases h
  · intro h
    cases hd : dropStart? t start with
    | none => rfl
    | some left => exact absurd ⟨left, (eq_append_of_dropStart? hd).symm⟩ h

/-! ## Bodies -/

/-- The body up to the first unprotected quote, and what follows the quote. A character that
satisfies `stop` does not stand in a body unprotected. -/
def scanBody (quote : Text) (stop : CodePoint → Bool) (t : Text) : Option (Text × Text) :=
  match t with
  | [] => none
  | c :: rest =>
    match dropStart? t quote with
    | some left => some ([], left)
    | none =>
      if c = '\\' then
        match rest with
        | [] => none
        | d :: rest' => (scanBody quote stop rest').map fun (body, left) => (c :: d :: body, left)
      else if stop c then none
      else (scanBody quote stop rest).map fun (body, left) => (c :: body, left)

section

variable {quote : Text} {stop : CodePoint → Bool}

/-- A body ends at an unprotected quote. -/
theorem scanBody_quote (hquote : quote ≠ []) (left : Text) :
    scanBody quote stop (quote ++ left) = some ([], left) := by
  have hstart := dropStart?_append quote left
  generalize ht : quote ++ left = t at hstart ⊢
  cases t with
  | nil => simp [hquote] at ht
  | cons c rest =>
    rw [scanBody.eq_def]
    simp only [hstart]

/-- A character that neither ends the body nor protects another is part of it. -/
theorem scanBody_unquoted {c : CodePoint} {t : Text} (hnone : ¬ quote <+: c :: t) (hc : c ≠ '\\')
    (hstop : stop c = false) :
    scanBody quote stop (c :: t) = (scanBody quote stop t).map fun (body, left) =>
      (c :: body, left) := by
  rw [scanBody.eq_def]
  simp only [dropStart?_eq_none.mpr hnone, hc, hstop, if_false, Bool.false_eq_true]

end

/-! ## Escapes -/

abbrev EscapeReader := Text → Option (Text × Text)

/-- The code point with the number that the given count of hexadecimal digits writes, and what
follows them. -/
def hexPoint? (width : Nat) (t : Text) : Option (CodePoint × Text) :=
  if (t.take width).length = width then
    match hexNat? (t.take width) with
    | some n => if n < 0x110000 then some (.ofNat n, t.drop width) else none
    | none => none
  else none

/-- The text with its escapes replaced, at most `fuel` characters and escapes being read. -/
def unescapeWithin (escape : EscapeReader) (fuel : Nat) (t : Text) : Option Text :=
  match fuel, t with
  | _, [] => some []
  | 0, _ => none
  | fuel + 1, c :: rest =>
    if c = '\\' then
      match escape rest with
      | none => none
      | some (piece, rest') => (unescapeWithin escape fuel rest').map (piece ++ ·)
    else (unescapeWithin escape fuel rest).map (c :: ·)

def unescape (escape : EscapeReader) (t : Text) : Option Text := unescapeWithin escape t.length t

theorem unescapeWithin_mono {escape : EscapeReader} {m n : Nat} {t v : Text}
    (h : unescapeWithin escape m t = some v) (hmn : m ≤ n) :
    unescapeWithin escape n t = some v := by
  induction m generalizing n t v with
  | zero => cases t with
    | nil => cases n <;> simpa [unescapeWithin] using h
    | cons c t => simp [unescapeWithin] at h
  | succ m ih =>
    obtain ⟨n, rfl⟩ : ∃ k, n = k + 1 := ⟨n - 1, by omega⟩
    cases t with
    | nil => simpa [unescapeWithin] using h
    | cons c t =>
      simp only [unescapeWithin] at h ⊢
      split at h
      · next hc =>
        rw [if_pos hc]
        cases he : escape t with
        | none => simp [he] at h
        | some p =>
          simp only [he, Option.map_eq_some_iff] at h ⊢
          obtain ⟨w, hw, rfl⟩ := h
          exact ⟨w, ih hw (by omega), rfl⟩
      · next hc =>
        rw [if_neg hc]
        obtain ⟨w, hw, rfl⟩ := Option.map_eq_some_iff.mp h
        exact Option.map_eq_some_iff.mpr ⟨w, ih hw (by omega), rfl⟩

/-- Escapes that stand for no more than they are leave a text no longer than it was. -/
theorem length_unescapeWithin_le {escape : EscapeReader} {fuel : Nat} {t v : Text}
    (hescape : ∀ {t piece left}, escape t = some (piece, left) →
      piece.length + left.length ≤ t.length + 1)
    (h : unescapeWithin escape fuel t = some v) : v.length ≤ t.length := by
  induction fuel generalizing t v with
  | zero =>
    cases t <;> cases h
    exact Nat.le_refl _
  | succ fuel ih =>
    cases t with
    | nil =>
      cases h
      exact Nat.le_refl _
    | cons c rest =>
      simp only [unescapeWithin] at h
      split at h
      · split at h
        · cases h
        · next piece rest' hpiece =>
          obtain ⟨w, hw, rfl⟩ := Option.map_eq_some_iff.mp h
          have := hescape hpiece
          have := ih hw
          simp only [List.length_append, List.length_cons]
          omega
      · obtain ⟨w, hw, rfl⟩ := Option.map_eq_some_iff.mp h
        simpa using ih hw

/-! ## Images -/

/-- A character that a body holds as it is, between two marks. -/
structure Plain (mark : CodePoint) (stop : CodePoint → Bool) (c : CodePoint) : Prop where
  ne_backslash : c ≠ '\\'
  ne_mark : c ≠ mark
  not_stop : stop c = false

/-- How a body may spell a character: by itself, or by a backslash and what the reader of escapes
takes for it. -/
inductive Image (escape : EscapeReader) (mark : CodePoint) (stop : CodePoint → Bool) :
    CodePoint → Text → Prop where
  | plain {c : CodePoint} : Plain mark stop c → Image escape mark stop c [c]
  | escaped {c d : CodePoint} {code : Text} : (∀ t, escape (d :: (code ++ t)) = some ([c], t)) →
      (∀ e ∈ code, Plain mark stop e) → Image escape mark stop c ('\\' :: d :: code)

variable {escape : EscapeReader} {mark : CodePoint} {stop : CodePoint → Bool}
    {image : CodePoint → Text}

theorem Image.pair {c d : CodePoint} (h : ∀ t, escape (d :: t) = some ([c], t)) :
    Image escape mark stop c ['\\', d] := .escaped h (by simp)

theorem scanBody_plain {c : CodePoint} (h : Plain mark stop c) (t : Text) :
    scanBody [mark] stop (c :: t) =
      (scanBody [mark] stop t).map fun (body, left) => (c :: body, left) := by
  have hm : ¬ mark = c := fun e => h.ne_mark e.symm
  rw [scanBody.eq_def]
  simp [dropStart?, hm, h.ne_backslash, h.not_stop]

theorem scanBody_plains {code : Text} (h : ∀ e ∈ code, Plain mark stop e) (t : Text) :
    scanBody [mark] stop (code ++ t) =
      (scanBody [mark] stop t).map fun (body, left) => (code ++ body, left) := by
  induction code with
  | nil => simp
  | cons e code ih =>
    rw [List.cons_append, scanBody_plain (h e (by simp)), ih fun e he => h e (by simp [he])]
    simp [Function.comp_def]

theorem scanBody_image {c : CodePoint} {code : Text} (hm : mark ≠ '\\')
    (h : Image escape mark stop c code) (t : Text) :
    scanBody [mark] stop (code ++ t) =
      (scanBody [mark] stop t).map fun (body, left) => (code ++ body, left) := by
  cases h with
  | plain hc => simpa using scanBody_plain hc t
  | @escaped d code _ hcode =>
    rw [List.cons_append, List.cons_append, scanBody.eq_def]
    simp [dropStart?, hm, scanBody_plains hcode, Function.comp_def]

/-- A body of images ends at the mark after them. -/
theorem scanBody_images (hm : mark ≠ '\\') {raw : Text}
    (h : ∀ c ∈ raw, Image escape mark stop c (image c)) (t : Text) :
    scanBody [mark] stop (raw.flatMap image ++ mark :: t) = some (raw.flatMap image, t) := by
  induction raw with
  | nil => rw [List.flatMap_nil, List.nil_append, scanBody.eq_def]; simp [dropStart?]
  | cons c raw ih =>
    rw [List.flatMap_cons, List.append_assoc, scanBody_image hm (h c (by simp)),
      ih fun c hc => h c (by simp [hc])]
    rfl

/-- A body of images with the mark after it does not start with two marks, unless one more mark
follows. -/
theorem dropStart?_images (hm : mark ≠ '\\') {raw : Text}
    (h : ∀ c ∈ raw, Image escape mark stop c (image c)) {t : Text} (ht : t.head? ≠ some mark) :
    dropStart? (raw.flatMap image ++ mark :: t) [mark, mark] = none := by
  cases raw with
  | nil =>
    cases t with
    | nil => simp [dropStart?]
    | cons d t =>
      have hd : ¬ mark = d := fun e => ht (by simp [e])
      simp [dropStart?, hd]
  | cons c raw =>
    have hc := h c (by simp)
    rw [List.flatMap_cons]
    generalize image c = code at hc ⊢
    cases hc with
    | plain hc =>
      have hne : ¬ mark = c := fun e => hc.ne_mark e.symm
      simp [dropStart?, hne]
    | escaped => simp [dropStart?, hm]

theorem unescapeWithin_image {c : CodePoint} {code t v : Text} (h : Image escape mark stop c code)
    (ht : unescapeWithin escape t.length t = some v) :
    unescapeWithin escape (code ++ t).length (code ++ t) = some (c :: v) := by
  cases h with
  | plain hc => simp [unescapeWithin, hc.ne_backslash, ht]
  | @escaped d code hread _ =>
    have hmore : unescapeWithin escape (d :: (code ++ t)).length t = some v :=
      unescapeWithin_mono ht (by simp; omega)
    rw [List.cons_append, List.length_cons, unescapeWithin]
    simp only [if_true, hread, hmore, Option.map_some, List.cons_append,
      List.nil_append]

theorem unescape_images {raw : Text} (h : ∀ c ∈ raw, Image escape mark stop c (image c)) :
    unescape escape (raw.flatMap image) = some raw := by
  induction raw with
  | nil => rfl
  | cons c raw ih =>
    exact unescapeWithin_image (h c (by simp)) (ih fun c hc => h c (by simp [hc]))

end LocaleGen.Text
