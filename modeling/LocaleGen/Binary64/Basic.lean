/-!
# Binary floating point

The 64-bit binary numbers as exact values: a finite one is `± significand · 2 ^ exponent` with at
most 53 significant bits and an exponent of at least -1074. `ofRatio` rounds a fraction to the
nearest of them, a tie to the even significand; `ofScientific` reads a decimal numeral by the same
rule.

Every number made here is in lowest form: the significand has 53 bits unless the exponent is the
least one.
-/

namespace LocaleGen

/-- A 64-bit binary number. -/
inductive Binary64 where
  | nan
  | infinite (negative : Bool)
  | finite (negative : Bool) (significand : Nat) (exponent : Int)
  deriving DecidableEq, Repr

namespace Binary64

def zero (negative : Bool) : Binary64 := .finite negative 0 (-1074)

/-- The quotient rounded to the nearest whole number, a tie to the even one. -/
def roundDiv (num den : Nat) : Nat :=
  let q := num / den
  let r := num % den
  if 2 * r < den then q
  else if 2 * r = den then (if q % 2 = 0 then q else q + 1)
  else q + 1

def scaled (num den : Nat) (e : Int) : Nat :=
  if 0 ≤ e then roundDiv num (den * Nat.pow 2 e.toNat)
  else roundDiv (num * Nat.pow 2 (-e).toNat) den

/-- The exponent that gives `num / den` 53 significant bits, or the least exponent if that is
larger. -/
def exponentFor (num den : Nat) : Int :=
  let e : Int := (Nat.log2 num : Int) - (Nat.log2 den : Int) - 53
  let wide : Bool :=
    if 0 ≤ e then Nat.pow 2 53 * (den * Nat.pow 2 e.toNat) ≤ num
    else Nat.pow 2 53 * den ≤ num * Nat.pow 2 (-e).toNat
  max (-1074) (if wide then e + 1 else e)

def ofRatio (negative : Bool) (num den : Nat) : Binary64 :=
  if num = 0 then zero negative
  else
    let e := exponentFor num den
    let m := scaled num den e
    let (m, e) := if m = Nat.pow 2 53 then (Nat.pow 2 52, e + 1) else (m, e)
    if e > 971 then .infinite negative else .finite negative m e

def ofInt (i : Int) : Binary64 := ofRatio (i < 0) i.natAbs 1

/-- The number nearest to `digits · 10 ^ exponent`. Far outside the range of the finite numbers the
answer is plain, and no power is computed. -/
def ofScientific (negative : Bool) (digits : Nat) (exponent : Int) : Binary64 :=
  if digits = 0 then zero negative
  else
    let magnitude : Int := (Nat.log2 digits : Int) / 4 + exponent
    if magnitude > 400 then .infinite negative
    else if (Nat.log2 digits : Int) + exponent < -400 then zero negative
    else if 0 ≤ exponent then ofRatio negative (digits * Nat.pow 10 exponent.toNat) 1
    else ofRatio negative digits (Nat.pow 10 (-exponent).toNat)

/-- A number with this sign and finite absolute value as a fraction. -/
def magnitude (m : Nat) (e : Int) : Nat × Nat :=
  if 0 ≤ e then (m * Nat.pow 2 e.toNat, 1) else (m, Nat.pow 2 (-e).toNat)

/-- The integer that a number equals, if it is whole. -/
def toInt? (x : Binary64) : Option Int :=
  match x with
  | .finite negative m e =>
    let (num, den) := magnitude m e
    if num % den = 0 then
      some (if negative then -((num / den : Nat) : Int) else (num / den : Nat))
    else none
  | _ => none

def isFinite (x : Binary64) : Bool :=
  match x with
  | .finite .. => true
  | _ => false

/-- Below or at zero; a number that is not one compares with nothing. -/
def isNonpositive (x : Binary64) : Bool :=
  match x with
  | .nan => false
  | .infinite negative => negative
  | .finite negative m _ => negative || m = 0

/-- Numerical equality: both zeros are equal, and `nan` equals nothing. -/
def equals (x y : Binary64) : Bool :=
  match x, y with
  | .nan, _ => false
  | _, .nan => false
  | .finite _ 0 _, .finite _ 0 _ => true
  | x, y => x = y

end Binary64

end LocaleGen

/-! ## Arithmetic of binary numbers

Sums and products are the exact ones, rounded once. Infinity and not-a-number follow the usual
rules: an indefinite form is not a number.
-/

namespace LocaleGen.Binary64

def isNegative (x : Binary64) : Bool :=
  match x with
  | nan => false
  | infinite negative | finite negative .. => negative

def negate (x : Binary64) : Binary64 :=
  match x with
  | nan => nan
  | infinite negative => infinite (!negative)
  | finite negative m e => finite (!negative) m e

/-- The signed numerator and the denominator of a finite number. -/
def fraction (negative : Bool) (m : Nat) (e : Int) : Int × Nat :=
  let (num, den) := magnitude m e
  (if negative then -(num : Int) else num, den)

/-- The sum; of two zeros it is negative only if both are. -/
def add (x y : Binary64) : Binary64 :=
  match x, y with
  | finite negative m e, finite negative' n f =>
    let (a, b) := fraction negative m e
    let (c, d) := fraction negative' n f
    let sum := a * d + c * b
    if sum = 0 then zero (negative && negative') else ofRatio (sum < 0) sum.natAbs (b * d)
  | infinite negative, infinite negative' => if negative = negative' then infinite negative else nan
  | nan, _ | _, nan => nan
  | infinite negative, _ | _, infinite negative => infinite negative

/-- The product. -/
def mul (x y : Binary64) : Binary64 :=
  let negative := x.isNegative != y.isNegative
  match x, y with
  | finite _ m e, finite _ n f =>
    let (a, b) := magnitude m e
    let (c, d) := magnitude n f
    ofRatio negative (a * c) (b * d)
  | nan, _ | _, nan => nan
  | infinite _, finite _ m _ | finite _ m _, infinite _ => if m = 0 then nan else infinite negative
  | infinite _, infinite _ => infinite negative

end LocaleGen.Binary64
