/-!
# Text

A `Text` is a list of code points. It is wider than `String`: a code point may be a surrogate, so a
text may hold half of a surrogate pair, as a decoded escape can leave behind. `String` stays for the
fixed words of the output; `Text.ofString` embeds it, as a coercion.

`IsScalar` is what encoders ask for: a text of scalars is a `String`, one with a surrogate is not.
-/

namespace LocaleGen

/-- A Unicode code point, surrogates included. -/
structure CodePoint where
  val : Nat
  isLt : val < 0x110000
  deriving DecidableEq, Repr

namespace CodePoint

def ofChar (c : Char) : CodePoint :=
  ⟨c.toNat, by
    have h := c.valid
    have e : c.toNat = c.val.toNat := rfl
    simp only [UInt32.isValidChar, Nat.isValidChar] at h
    omega⟩

instance : Coe Char CodePoint := ⟨ofChar⟩

@[simp] theorem val_ofChar (c : Char) : (ofChar c).val = c.toNat := rfl

theorem eq_iff_val {c d : CodePoint} : c = d ↔ c.val = d.val :=
  ⟨fun h => h ▸ rfl, fun h => by cases c; cases d; simp_all⟩

/-- The code point with a number, the replacement character for a number that is too large. -/
def ofNat (n : Nat) : CodePoint :=
  if h : n < 0x110000 then ⟨n, h⟩ else ofChar '\uFFFD'

@[simp] theorem val_ofNat {n : Nat} (h : n < 0x110000) : (ofNat n).val = n := by
  rw [ofNat, dif_pos h]

@[simp] theorem ofNat_val (c : CodePoint) : ofNat c.val = c := by
  rw [ofNat, dif_pos c.isLt]

def isSurrogate (c : CodePoint) : Bool := 0xD800 ≤ c.val && c.val ≤ 0xDFFF

def isHighSurrogate (c : CodePoint) : Bool := 0xD800 ≤ c.val && c.val ≤ 0xDBFF

def isLowSurrogate (c : CodePoint) : Bool := 0xDC00 ≤ c.val && c.val ≤ 0xDFFF

def isAscii (c : CodePoint) : Bool := c.val < 0x80

def isDigit (c : CodePoint) : Bool := 0x30 ≤ c.val && c.val ≤ 0x39

def isLetter (c : CodePoint) : Bool :=
  (0x41 ≤ c.val && c.val ≤ 0x5A) || (0x61 ≤ c.val && c.val ≤ 0x7A)

def hexValue? (c : CodePoint) : Option Nat :=
  if c.isDigit then some (c.val - 0x30)
  else if 0x41 ≤ c.val && c.val ≤ 0x46 then some (c.val - 0x37)
  else if 0x61 ≤ c.val && c.val ≤ 0x66 then some (c.val - 0x57)
  else none

/-- An ASCII capital becomes its small letter; everything else stays. -/
def asciiLower (c : CodePoint) : CodePoint :=
  if h : 0x41 ≤ c.val ∧ c.val ≤ 0x5A then ⟨c.val + 32, by omega⟩ else c

def toChar? (c : CodePoint) : Option Char :=
  if h : c.val.isValidChar then some (Char.ofNatAux c.val h) else none

end CodePoint

abbrev Text := List CodePoint

instance : LawfulBEq Text := inferInstanceAs (LawfulBEq (List CodePoint))

namespace Text

def ofString (s : String) : Text := s.toList.map CodePoint.ofChar

instance : Coe String Text := ⟨ofString⟩

def words (ws : List String) : List Text := ws.map ofString

def IsScalar (t : Text) : Prop := ∀ c ∈ t, c.isSurrogate = false

instance (t : Text) : Decidable t.IsScalar := inferInstanceAs (Decidable (∀ c ∈ t, _))

/-! ## Parts of a text -/

def contains (t part : Text) : Bool :=
  match t with
  | [] => part.isEmpty
  | c :: rest => part.isPrefixOf (c :: rest) || contains rest part

theorem notMem_of_contains {t : Text} {c : CodePoint} (h : t.contains [c] = false) : c ∉ t := by
  induction t with
  | nil => simp
  | cons d t ih =>
    simp only [contains, Bool.or_eq_false_iff] at h
    have hne : c ≠ d := by simpa [List.isPrefixOf] using h.1
    simp [hne, ih h.2]

def replace (t : Text) (c : CodePoint) (image : Text) : Text :=
  t.flatMap fun d => if d = c then image else [d]

/-- What is left after the given beginning, if the text begins so. -/
def dropStart? (t start : Text) : Option Text :=
  match start, t with
  | [], t => some t
  | _ :: _, [] => none
  | c :: start, d :: t => if c = d then dropStart? t start else none

/-- The pieces between the occurrences of `c`; there is always at least one. -/
def splitOn (t : Text) (c : CodePoint) : List Text :=
  match t with
  | [] => [[]]
  | d :: rest =>
    match splitOn rest c with
    | [] => [[]]
    | piece :: pieces => if d = c then [] :: piece :: pieces else (d :: piece) :: pieces

theorem splitOn_ne_nil (t : Text) (c : CodePoint) : splitOn t c ≠ [] := by
  fun_induction splitOn t c <;> simp

theorem splitOn_append_cons (t u : Text) (c : CodePoint) :
    splitOn (t ++ c :: u) c = splitOn t c ++ splitOn u c := by
  induction t with
  | nil =>
    obtain ⟨piece, pieces, hrest⟩ := List.exists_cons_of_ne_nil (splitOn_ne_nil u c)
    simp [splitOn, hrest]
  | cons d t ih =>
    obtain ⟨piece, pieces, hrest⟩ := List.exists_cons_of_ne_nil (splitOn_ne_nil t c)
    rw [List.cons_append, splitOn, splitOn, ih, hrest]
    by_cases hd : d = c <;> simp [hd]

@[simp] theorem splitOn_of_notMem {t : Text} {c : CodePoint} (h : c ∉ t) : splitOn t c = [t] := by
  induction t with
  | nil => rfl
  | cons d t ih =>
    simp only [List.mem_cons, not_or] at h
    rw [splitOn, ih h.2]
    simp [Ne.symm h.1]

def join (between : Text) (pieces : List Text) : Text :=
  match pieces with
  | [] => []
  | [piece] => piece
  | piece :: rest => piece ++ between ++ join between rest

def unlines (lines : List Text) : Text := lines.flatMap fun line => line ++ "\n"

def trim (p : CodePoint → Bool) (t : Text) : Text :=
  (((t.dropWhile p).reverse).dropWhile p).reverse

def trimEnd (p : CodePoint → Bool) (t : Text) : Text :=
  (t.reverse.dropWhile p).reverse

/-- Every line with its end, CR LF and CR being read as LF. -/
def normalizeNewlines (t : Text) : Text :=
  match t with
  | [] => []
  | c :: rest =>
    if c = '\r' then
      match rest with
      | [] => ['\n']
      | d :: rest' =>
        if d = '\n' then '\n' :: normalizeNewlines rest' else '\n' :: normalizeNewlines (d :: rest')
    else c :: normalizeNewlines rest

@[simp] theorem normalizeNewlines_of_notMem {t : Text} (h : CodePoint.ofChar '\r' ∉ t) :
    t.normalizeNewlines = t := by
  induction t with
  | nil => rfl
  | cons c t ih =>
    have hc : ¬ c = '\r' := fun e => h (by simp [e])
    rw [normalizeNewlines.eq_def]
    simp only [hc, if_false]
    rw [ih fun hm => h (by simp [hm])]

theorem notMem_normalizeNewlines (t : Text) : CodePoint.ofChar '\r' ∉ t.normalizeNewlines := by
  have hne : ¬ CodePoint.ofChar '\r' = CodePoint.ofChar '\n' := by decide
  fun_induction normalizeNewlines t with
  | case1 => simp
  | case2 => simp [hne]
  | case3 _ ih => simp [hne, ih]
  | case4 _ _ _ ih => simp [hne, ih]
  | case5 c rest hc ih => simp [Ne.symm hc, ih]

theorem length_normalizeNewlines_le (t : Text) : t.normalizeNewlines.length ≤ t.length := by
  fun_induction normalizeNewlines t <;> simp_all
  omega

@[simp] theorem normalizeNewlines_cons {c : CodePoint} (hc : c ≠ '\r') (t : Text) :
    normalizeNewlines (c :: t) = c :: normalizeNewlines t := by
  rw [normalizeNewlines.eq_def]
  simp only [hc, if_false]

/-- A text in front of no line feed is normalized by itself. -/
theorem normalizeNewlines_append (t : Text) {u : Text}
    (h : u.head? ≠ some (CodePoint.ofChar '\n')) :
    normalizeNewlines (t ++ u) = normalizeNewlines t ++ normalizeNewlines u := by
  fun_induction normalizeNewlines t with
  | case1 => rfl
  | case2 =>
    cases u with
    | nil => rfl
    | cons d u =>
      have hd : ¬ d = '\n' := fun e => h (by simp [e])
      rw [List.singleton_append, normalizeNewlines.eq_def]
      simp only [if_true, hd, if_false]
      rfl
  | case3 rest ih =>
    rw [List.cons_append, List.cons_append, normalizeNewlines.eq_def]
    simp [ih]
  | case4 d rest hd ih =>
    rw [List.cons_append, List.cons_append, normalizeNewlines.eq_def]
    simp only [if_true, hd, if_false, List.cons_append] at ih ⊢
    rw [ih]
  | case5 c rest hc ih => rw [List.cons_append, normalizeNewlines_cons hc, ih, List.cons_append]

/-- Whether `a` comes before `b` when texts are sorted by code point. -/
def lt (a b : Text) : Bool :=
  match a, b with
  | _, [] => false
  | [], _ :: _ => true
  | c :: a, d :: b => c.val < d.val || (c.val == d.val && lt a b)

/-- Ascending order by code point, equal texts keeping their order. -/
def sort (ts : List Text) : List Text := ts.mergeSort fun a b => !lt b a

end Text

end LocaleGen
