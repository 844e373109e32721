import LocaleGen.Charset.HanziPlane
import LocaleGen.Charset.HongKongPlane
import LocaleGen.Charset.Sequence
import LocaleGen.Charset.TaiwanPlane

/-!
# Chinese encodings

Those of the short forms build on each other: GB 2312 is a square, GBK adds rows and columns around
it, and GB 18030 fills its gaps and gives four bytes to all other characters. Those of the long
forms are Big5, a code page and the supplement of Hong Kong.
-/

namespace LocaleGen.Charset

/-! ## Short forms -/

def commonIdeographs : List Nat :=
  ((hanzi.flatMap fun run => Text.ofString run.2).map (·.val)).mergeSort.filter
    fun n => 0x4E00 ≤ n && n ≤ 0x9FA5

def rareCount : Nat := 0x9FA5 - 0x4E00 + 1 - 6763

/-- The place of two bytes in rows of one hundred and ninety places. -/
def wideHanziPlace? (a b : UInt8) : Option Nat :=
  if within a 0x81 0xFE && within b 0x40 0xFE && b ≠ 0x7F then
    some ((a.toNat - 0x81) * 190 + indexAround7F b)
  else none

/-- Where two bytes stand among those that GBK has for more ideographs: in the first rows, and then
in the first columns of the last ones. -/
def rarePlace? (a b : UInt8) : Option Nat :=
  if within b 0x40 0xFE && b ≠ 0x7F then
    if within a 0x81 0xA0 then some ((a.toNat - 0x81) * 190 + indexAround7F b)
    else if within a 0xAA 0xFE && b ≤ 0xA0 then
      some (6080 + (a.toNat - 0xAA) * 96 + indexAround7F b)
    else none
  else none

def rareIdeograph? (a b : UInt8) : Option CodePoint := do
  let place ← rarePlace? a b
  if place < rareCount then some (.ofNat (nthOutside commonIdeographs 0x4E00 place)) else none

def gbk? (a b : UInt8) : Option CodePoint := do
  let place ← wideHanziPlace? a b
  (moreHanzi.at? place).or (((squarePlace? 0xA1 a b).bind hanzi.at?).or (rareIdeograph? a b))

def filled? (place : Nat) : Option CodePoint :=
  (filledPlaces.find? fun r => r.1 ≤ place && place < r.1 + r.2.2).map
    fun r => .ofNat (r.2.1 + (place - r.1))

/-- The number at a place among those in ascending ranges. -/
def nthInRanges? (ranges : List (Nat × Nat)) (place : Nat) : Option Nat :=
  match ranges with
  | [] => none
  | (lo, hi) :: rest =>
    if place ≤ hi - lo then some (lo + place) else nthInRanges? rest (place - (hi - lo + 1))

/-- The code point with a number that four bytes tell. -/
def longHanzi? (a b c d : UInt8) : Option CodePoint :=
  if within a 0x81 0xFE && within c 0x81 0xFE && within d 0x30 0x39 then
    let n :=
      (((a.toNat - 0x81) * 10 + (b.toNat - 0x30)) * 126 + (c.toNat - 0x81)) * 10 + (d.toNat - 0x30)
    if a.toNat < 0x85 then (nthInRanges? longHanzi n).map .ofNat
    else if 189000 ≤ n && n < 189000 + 0x100000 then some (.ofNat (0x10000 + (n - 189000)))
    else none
  else none

namespace Step

def gb2312 : UInt8 → Bytes → Step Unit :=
  asciiOr (double fun a b => do .some [← hanzi.at? (← squarePlace? 0xA1 a b)])

def gbk : UInt8 → Bytes → Step Unit := asciiOr (double fun a b => (gbk? a b).map fun c => [c])

def gb18030 : UInt8 → Bytes → Step Unit :=
  asciiOr fun a rest =>
    match rest with
    | [] => .unfinished
    | b :: rest' =>
      if within b 0x30 0x39 then
        match rest' with
        | c :: d :: _ =>
          match longHanzi? a b c d with
          | some c => .characters [c] 4 ()
          | none => .faulty 1
        | _ => .unfinished
      else double (fun a b => ((gbk? a b).or ((wideHanziPlace? a b).bind filled?)).map
        fun c => [c]) a rest

/-- A step in the encoding that switches between ASCII and GB 2312 by a tilde and a brace. -/
def switched (chinese : Bool) (a : UInt8) (rest : Bytes) : Step Bool :=
  if a = 0x7E then
    match rest with
    | [] => .unfinished
    | b :: _ =>
      if chinese then if b = 0x7D then .characters [] 2 false else .faulty 1
      else if b = 0x7E then .characters ['~'] 2 false
      else if b = 0x7B then .characters [] 2 true
      else if b = 0x0A then .characters [] 2 false
      else .faulty 1
  else if 0x80 ≤ a then .faulty 1
  else if chinese then
    match rest with
    | [] => .unfinished
    | b :: _ =>
      match (squarePlace? 0x21 a b).bind hanzi.at? with
      | some c => .characters [c] 2 true
      | none => .faulty 1
  else .characters [.ofNat a.toNat] 1 false

end Step

/-! ## Long forms -/

/-- The place of two bytes in rows of one hundred and fifty-seven places. -/
def taiwanPlace? (a b : UInt8) : Option Nat :=
  let row := (a.toNat - 0x81) * 157
  if !within a 0x81 0xFE then none
  else if within b 0x40 0x7E then some (row + (b.toNat - 0x40))
  else if within b 0xA1 0xFE then some (row + 63 + (b.toNat - 0xA1))
  else none

/-- Whether two bytes stand for what the supplement of Hong Kong has instead of Big5. -/
def isReplaced (a b : UInt8) : Bool := within a 0xC6 0xC8 && (0xC7 ≤ a || 0xA1 ≤ b)

namespace Step

def big5 : UInt8 → Bytes → Step Unit :=
  asciiOr (double fun a b => do .some [← taiwan.at? (← taiwanPlace? a b)])

def windowsTaiwan : UInt8 → Bytes → Step Unit :=
  asciiOr (double fun a b => do
    let place ← taiwanPlace? a b
    .some [← (Charset.windowsTaiwan.at? place).or (taiwan.at? place)])

def hongKong : UInt8 → Bytes → Step Unit :=
  asciiOr (double fun a b => do
    let place ← taiwanPlace? a b
    match (if isReplaced a b then none else taiwan.at? place).or (Charset.hongKong.at? place) with
    | some c => some [c]
    | none => pairAt? pairedHongKong place)

end Step

end LocaleGen.Charset
