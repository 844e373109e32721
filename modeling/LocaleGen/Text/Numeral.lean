import LocaleGen.Text.Basic

/-!
# Numerals

Numbers written with digits: `ofNat` and `ofInt` in decimal, `hex` with a least number of digits.
`ofDigits` reads digits back.
-/

namespace LocaleGen.Text

/-- The digits of `n`, the most significant first; zero has one digit. -/
def digits (base n : Nat) : List Nat :=
  if _h : 2 ≤ base ∧ base ≤ n then digits base (n / base) ++ [n % base] else [n]
termination_by n
decreasing_by exact Nat.div_lt_self (by omega) (by omega)

/-- The number with the given digits, the most significant first. -/
def ofDigits (base : Nat) (ds : List Nat) : Nat := ds.foldl (fun n d => n * base + d) 0

def digit (d : Nat) : CodePoint := .ofNat (if d < 10 then 0x30 + d else 0x57 + d)

def capitalDigit (d : Nat) : CodePoint := .ofNat (if d < 10 then 0x30 + d else 0x37 + d)

def ofNat (n : Nat) : Text := (digits 10 n).map digit

/-- The decimal numeral of an integer, with a sign only below zero. -/
def ofInt (i : Int) : Text :=
  match i with
  | .ofNat n => ofNat n
  | .negSucc n => '-' :: ofNat (n + 1)

def padded (width : Nat) (ds : List Nat) : List Nat := List.replicate (width - ds.length) 0 ++ ds

def hex (width n : Nat) : Text := (padded width (digits 16 n)).map digit

def capitalHex (width n : Nat) : Text := (padded width (digits 16 n)).map capitalDigit

def decimal (width n : Nat) : Text := (padded width (digits 10 n)).map digit

/-- The number written by decimal digits, if there is at least one and nothing else. -/
def toNat? (t : Text) : Option Nat :=
  if !t.isEmpty && t.all CodePoint.isDigit then some (ofDigits 10 (t.map (·.val - 0x30))) else none

/-- The number written by hexadecimal digits, if there is at least one and nothing else. -/
def hexNat? (t : Text) : Option Nat :=
  if t.isEmpty then none else (t.mapM CodePoint.hexValue?).map (ofDigits 16)

end LocaleGen.Text
