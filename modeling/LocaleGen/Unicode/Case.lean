import LocaleGen.Unicode.Basic
import LocaleGen.Unicode.CaseTable
import LocaleGen.Unicode.CasedTable

/-!
# Case mapping

`upper` and `lower` are the full mappings, so one character can become several. The only mapping
that looks at its neighbours is the lower case of a capital sigma: final at the end of a word,
medial elsewhere. `upperFirst` and `lowerFirst` map the first character of a text and keep the rest.
-/

namespace LocaleGen

namespace Unicode

def shifted? (runs : List CaseRun) (n : Nat) : Option Nat :=
  match runs with
  | [] => none
  | run :: rest =>
    if n < run.first then none
    else if n ≤ run.last && (n - run.first) % run.step == 0 then some ((n : Int) + run.shift).toNat
    else shifted? rest n

def mapped (runs : List CaseRun) (expansions : List (Nat × List Nat)) (c : CodePoint) : Text :=
  match shifted? runs c.val with
  | some n => [.ofNat n]
  | none =>
    match expansions.lookup c.val with
    | some ns => ns.map .ofNat
    | none => [c]

end Unicode

namespace CodePoint

def upper (c : CodePoint) : Text := Unicode.mapped Unicode.upperRuns Unicode.upperExpansions c

def lower (c : CodePoint) : Text := Unicode.mapped Unicode.lowerRuns Unicode.lowerExpansions c

/-- Case-ignorable: passed over when the neighbours of a sigma are looked up. -/
def isCaseIgnorable (c : CodePoint) : Bool := Unicode.inRanges Unicode.caseIgnorable c.val

def isCased (c : CodePoint) : Bool := Unicode.inRanges Unicode.cased c.val

end CodePoint

namespace Text

/-- Whether the nearest character that is not passed over carries case. -/
def meetsCased (t : Text) : Bool :=
  match t.dropWhile CodePoint.isCaseIgnorable with
  | [] => false
  | c :: _ => c.isCased

/-- The lower case of a text whose left neighbours, the nearest first, are `before`. -/
def lowerAfter (before t : Text) : Text :=
  match t with
  | [] => []
  | c :: rest =>
    (if c = 'Σ' then
      [if meetsCased before && !meetsCased rest then CodePoint.ofChar 'ς' else CodePoint.ofChar 'σ']
     else c.lower) ++ lowerAfter (c :: before) rest

def lower (t : Text) : Text := lowerAfter [] t

def upper (t : Text) : Text := t.flatMap CodePoint.upper

def upperFirst (t : Text) : Text :=
  match t with
  | [] => []
  | c :: rest => c.upper ++ rest

def lowerFirst (t : Text) : Text :=
  match t with
  | [] => []
  | c :: rest => lower [c] ++ rest

def equalsIgnoringCase (a b : Text) : Bool := lower a == lower b

end Text

end LocaleGen
