import LocaleGen.Text.Basic

/-!
# Punycode

A label with characters outside ASCII as one of letters, digits and hyphens: first the ASCII
characters of the label, then a hyphen if there are any, then where the other characters go, in
ascending order. Each is told from the one before by a number of digits in base 36, whose thresholds
adapt to the numbers that were met. `encode` writes that form and `decode` reads it; `decodeLossy`
reads it as far as it can be read.
-/

namespace LocaleGen.Host.Punycode

/-! ## Digits -/

def digit (d : Nat) : CodePoint := .ofNat (if d < 26 then 0x61 + d else 0x30 + (d - 26))

def digitValue? (c : CodePoint) : Option Nat :=
  if c.isDigit then some (c.val - 0x30 + 26)
  else if c.isLetter then some (c.asciiLower.val - 0x61)
  else none

def threshold (place bias : Nat) : Nat := max 1 (min 26 (36 * (place + 1) - bias))

theorem one_le_threshold (place bias : Nat) : 1 ≤ threshold place bias := Nat.le_max_left ..

theorem threshold_le (place bias : Nat) : threshold place bias ≤ 26 := by
  unfold threshold
  omega

/-- Divides by 35 until at most 455 is left, and counts 36 for each division. -/
def damp (delta counted : Nat) : Nat × Nat :=
  if 455 < delta then damp (delta / 35) (counted + 36) else (delta, counted)
termination_by delta
decreasing_by exact Nat.div_lt_self (by omega) (by omega)

/-- The bias after the number `delta`, by which the label has grown to `length` characters. -/
def adapt (delta length : Nat) (isFirst : Bool) : Nat :=
  let halved := if isFirst then delta / 700 else delta / 2
  let (left, counted) := damp (halved + halved / length) 0
  counted + 36 * left / (left + 38)

/-! ## Writing -/

/-- The digits of a number, the least significant first. -/
def writeNumber (bias place n : Nat) : Text :=
  let t := threshold place bias
  if n < t then [digit n]
  else digit (t + (n - t) % (36 - t)) :: writeNumber bias (place + 1) ((n - t) / (36 - t))
termination_by n
decreasing_by
  have h₁ := one_le_threshold place bias
  have h₂ := threshold_le place bias
  exact Nat.lt_of_le_of_lt (Nat.div_le_self ..) (by omega)

/-- What was written so far, and what the next number starts from. -/
structure Writing where
  written : Text
  delta : Nat
  bias : Nat
  placed : Nat

/-- Goes past a character of the label when those with the number `n` are being placed. -/
def Writing.pass (basic n : Nat) (w : Writing) (c : CodePoint) : Writing :=
  if c.val < n then { w with delta := w.delta + 1 }
  else if c.val = n then
    ⟨w.written ++ writeNumber w.bias 0 w.delta, 0, adapt w.delta (w.placed + 1) (w.placed = basic),
      w.placed + 1⟩
  else w

def Writing.place (label : Text) (basic n : Nat) (w : Writing) (numbers : List Nat) : Writing :=
  match numbers with
  | [] => w
  | m :: rest =>
    let w :=
      label.foldl (Writing.pass basic m) { w with delta := w.delta + (m - n) * (w.placed + 1) }
    Writing.place label basic (m + 1) { w with delta := w.delta + 1 } rest

/-- The form of a label in letters, digits and hyphens. -/
def encode (label : Text) : Text :=
  let basic := label.filter CodePoint.isAscii
  let numbers := ((label.filter fun c => !c.isAscii).map (·.val)).mergeSort.eraseDups
  let written := (Writing.place label basic.length 0x80 ⟨[], 0, 72, basic.length⟩ numbers).written
  if basic.isEmpty then written else basic ++ (CodePoint.ofChar '-' :: written)

/-! ## Reading -/

/-- The characters that have their place, and the number that is being read. -/
structure Reading where
  label : Text
  last : Nat
  position : Nat
  bias : Nat
  isFirst : Bool
  place : Nat
  weight : Nat
  sum : Nat

/-- Reads a digit. The last one of a number puts a character into its place, or the one with the
number `otherwise` if there is no such character. -/
def Reading.step (otherwise : Option Nat) (r : Reading) (c : CodePoint) : Option Reading :=
  match digitValue? c with
  | none => none
  | some d =>
    let t := threshold r.place r.bias
    let sum := r.sum + d * r.weight
    if d < t then
      let length := r.label.length + 1
      let total := r.position + sum
      let number := r.last + total / length
      match if number < 0x110000 then some number else otherwise with
      | some number =>
        some ⟨r.label.insertIdx (total % length) (.ofNat number), number, total % length + 1,
          adapt sum length r.isFirst, false, 0, 1, 0⟩
      | none => none
    else some { r with place := r.place + 1, weight := r.weight * (36 - t), sum }

def Reading.start (basic : Text) : Reading := ⟨basic, 0x80, 0, 72, true, 0, 1, 0⟩

/-- The characters in front of the last hyphen, and the digits behind it. -/
def split (t : Text) : Text × Text :=
  let digits := (t.reverse.takeWhile (· ≠ CodePoint.ofChar '-')).reverse
  (t.take (t.length - digits.length - 1), digits)

def decode (t : Text) : Option Text :=
  let (basic, digits) := split t
  match digits.foldlM (Reading.step none) (.start basic) with
  | some r => if r.place = 0 then some r.label else none
  | none => none

/-- The label as far as its digits can be read. A question mark stands for a number that is too
large. -/
def Reading.readOn (r : Reading) (digits : Text) : Text :=
  match digits with
  | [] => r.label
  | c :: rest =>
    match r.step (some 0x3F) c with
    | some next => next.readOn rest
    | none => r.label

/-- The label of digits behind some characters, as far as they can be read. -/
def decodeLossy (basic digits : Text) : Text := (Reading.start basic).readOn digits

end LocaleGen.Host.Punycode
