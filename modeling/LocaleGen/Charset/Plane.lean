import LocaleGen.Text.Encoding

/-!
# Planes of characters

A `Plane` gives characters to places. It is kept as runs, each with the place of its first
character, in ascending order; a blank in a run is a place without a character. Encodings differ in
how bytes tell a place: `squarePlace?` and `shiftedPlace?` are the two ways of the rows of
ninety-four places.
-/

namespace LocaleGen.Charset

abbrev Plane := List (Nat × String)

def Plane.at? (p : Plane) (place : Nat) : Option CodePoint := do
  let (start, run) ← (p.takeWhile fun r => r.1 ≤ place).getLast?
  let c ← (Text.ofString run)[place - start]?
  if c = ' ' then none else some c

def pairAt? (pairs : List (Nat × Nat × Nat)) (place : Nat) : Option Text :=
  (pairs.find? fun p => p.1 = place).map fun p => [.ofNat p.2.1, .ofNat p.2.2]

/-- The number at a place among those from `n` on that an ascending list does not contain. -/
def nthOutside (taken : List Nat) (n place : Nat) : Nat :=
  match taken with
  | [] => n + place
  | t :: rest => if t ≤ n + place then nthOutside rest (n + 1) place else n + place

def within (b : UInt8) (lo hi : Nat) : Bool := lo ≤ b.toNat && b.toNat ≤ hi

/-- The place that two bytes tell, each of which is one of ninety-four from `base` on. -/
def squarePlace? (base : Nat) (a b : UInt8) : Option Nat :=
  if within a base (base + 93) && within b base (base + 93) then
    some ((a.toNat - base) * 94 + (b.toNat - base))
  else none

def indexAround7F (b : UInt8) : Nat := if b.toNat < 0x7F then b.toNat - 0x40 else b.toNat - 0x41

/-- The place that two bytes tell, of which the first one stands for two rows and keeps out of the
way of the bytes for single characters. -/
def shiftedPlace? (a b : UInt8) : Option Nat :=
  if (within a 0x81 0x9F || within a 0xE0 0xFC) && within b 0x40 0xFC && b ≠ 0x7F then
    some ((if a.toNat < 0xE0 then a.toNat - 0x81 else a.toNat - 0xC1) * 188 + indexAround7F b)
  else none

end LocaleGen.Charset
