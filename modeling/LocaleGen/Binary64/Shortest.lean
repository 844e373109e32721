import LocaleGen.Binary64.Basic
import LocaleGen.Text.Numeral

/-!
# Shortest decimal numerals

`shortest` gives the fewest digits that read back as the same number, the nearest such numeral if
there are several. `render` writes them: positional while the decimal point falls within 16 digits
and at most four places ahead of them, with an exponent of at least two digits otherwise.
-/

namespace LocaleGen.Binary64

/-- The number of digits before the decimal point: `10 ^ (k - 1) ≤ num / den < 10 ^ k`, found from a
lower bound by counting up. -/
def decimalPlace (fuel : Nat) (num den : Nat) (k : Int) : Int :=
  match fuel with
  | 0 => k
  | fuel + 1 =>
    let below : Bool :=
      if 0 ≤ k then num < den * Nat.pow 10 k.toNat else num * Nat.pow 10 (-k).toNat < den
    if below then k else decimalPlace fuel num den (k + 1)

def neighbours (num den : Nat) (place : Int) : List Nat :=
  let (num, den) :=
    if 0 ≤ place then (num, den * Nat.pow 10 place.toNat)
    else (num * Nat.pow 10 (-place).toNat, den)
  let near := roundDiv num den
  if near = num / den then [near, near + 1] else [near, near - 1]

/-- The first grid, from coarse to fine, that has a numeral of the number `m · 2 ^ e`: its digits
and the place of the last one. -/
def shortest (m : Nat) (e : Int) (k : Int) (count fuel : Nat) : Nat × Int :=
  let (num, den) := magnitude m e
  let place := k - count
  match fuel with
  | 0 => (roundDiv num den, 0)
  | fuel + 1 =>
    match (neighbours num den place).find? fun d => ofScientific false d place =
      .finite false m e with
    | some d => (d, place)
    | none => shortest m e k (count + 1) fuel

/-- The digits of a positive number without zeros at the end, and the number of them before the
point. -/
def decimalForm (m : Nat) (e : Int) : List Nat × Int :=
  let (num, den) := magnitude m e
  let start : Int := ((Nat.log2 num : Int) - (Nat.log2 den : Int) - 1) * 3 / 10 - 1
  let k := decimalPlace 700 num den start
  let (d, place) := shortest m e k 1 18
  let ds := Text.digits 10 d
  ((ds.reverse.dropWhile (· == 0)).reverse, ds.length + place)

def positional (ds : List Nat) (k : Int) : Text :=
  if k ≤ 0 then "0." ++ (List.replicate (-k).toNat 0 ++ ds).map Text.digit
  else if ds.length ≤ k.toNat then
    (ds ++ List.replicate (k.toNat - ds.length) 0).map Text.digit ++ ".0"
  else (ds.take k.toNat).map Text.digit ++ "." ++ (ds.drop k.toNat).map Text.digit

def exponential (ds : List Nat) (k : Int) : Text :=
  let e := k - 1
  let sign : Text := if e < 0 then "e-" else "e+"
  let rest : Text := if ds.length ≤ 1 then [] else '.' :: (ds.drop 1).map Text.digit
  (ds.take 1).map Text.digit ++ rest ++ sign ++ Text.decimal 2 e.natAbs

/-- The numeral of a number. -/
def render (x : Binary64) : Text :=
  match x with
  | .nan => "nan"
  | .infinite negative => if negative then "-inf" else "inf"
  | .finite negative m e =>
    let sign : Text := if negative then "-" else ""
    let (ds, k) := decimalForm m e
    let body : Text :=
      if m = 0 then "0.0" else if -4 < k && k ≤ 16 then positional ds k else exponential ds k
    sign ++ body

end LocaleGen.Binary64
