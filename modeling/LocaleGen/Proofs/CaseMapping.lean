import LocaleGen.Proofs.CodeSet
import LocaleGen.Unicode.Case
import Mathlib

/-!
# Case mappings over all characters

A character that the tables of a mapping do not have stays as it is, and one that they have becomes
something else (`IsMapping.mapped_of_notMem`, `IsMapping.mapped_ne_of_mem`), so what is to be said
of all characters is checked on the runs and on the expansions of the tables (`origin`).

What an upper case starts with is its own upper case (`upper_of_head`), and no small letter of
ASCII. Two such characters with the same lower case are the same but for four signs that have the
lower case of a letter (`eq_of_lower_eq`). A text whose lower case is ASCII has its characters
mapped one by one (`lower_eq_iff`), and few characters beyond ASCII have an upper case in it
(`isLatin_or_mem_disguises`).
-/

namespace LocaleGen

/-! ## Tables -/

namespace Unicode

def CaseRun.Has (run : CaseRun) (n : Nat) : Prop :=
  run.first ≤ n ∧ n ≤ run.last ∧ (n - run.first) % run.step = 0

def CaseRun.image (run : CaseRun) (n : Nat) : Nat := ((n : Int) + run.shift).toNat

def bounds (runs : List CaseRun) : List (Nat × Nat) := runs.map fun run => (run.first, run.last)

theorem shifted?_eq_some {runs : List CaseRun} {n m : Nat} (h : shifted? runs n = some m) :
    ∃ run ∈ runs, run.Has n ∧ m = run.image n := by
  induction runs with
  | nil => cases h
  | cons run rest ih =>
    rw [shifted?] at h
    split at h
    · cases h
    · next hfirst =>
      split at h
      · next hin =>
        simp only [Bool.and_eq_true, decide_eq_true_eq, beq_iff_eq] at hin
        exact ⟨run, List.mem_cons_self, ⟨by omega, hin.1, hin.2⟩, (Option.some.inj h).symm⟩
      · obtain ⟨run', hrun', hn⟩ := ih h
        exact ⟨run', List.mem_cons_of_mem _ hrun', hn⟩

/-- In ascending runs the one that has a code point is found. -/
theorem shifted?_of_mem {lo : Nat} {runs : List CaseRun}
    (hasc : isAscending lo (bounds runs) = true) {run : CaseRun} (hrun : run ∈ runs) {n : Nat}
    (hn : run.Has n) : shifted? runs n = some (run.image n) := by
  induction runs generalizing lo with
  | nil => cases hrun
  | cons first rest ih =>
    simp only [bounds, List.map_cons, isAscending, Bool.and_eq_true, decide_eq_true_eq] at hasc
    obtain ⟨⟨-, horder⟩, hrest⟩ := hasc
    have hfirst : run.first ≤ n := hn.1
    rw [shifted?]
    rcases List.mem_cons.mp hrun with rfl | hmem
    · rw [if_neg (by omega), if_pos (by simp [hn.2.1, hn.2.2])]
      rfl
    · have hlater : first.last + 1 ≤ run.first :=
        (bounds_of_isAscending hrest _ (List.mem_map_of_mem hmem)).1
      rw [if_neg (by omega), if_neg (by simp; omega)]
      exact ih hrest hmem

variable {runs : List CaseRun} {expansions : List (Nat × List Nat)} {c : CodePoint}

/-- Where the image of a character comes from. -/
inductive Origin (runs : List CaseRun) (expansions : List (Nat × List Nat)) (c : CodePoint) : Prop
  | self : shifted? runs c.val = none → c.val ∉ expansions.map Prod.fst →
      mapped runs expansions c = [c] →
      Origin runs expansions c
  | ofRun (run : CaseRun) :
      run ∈ runs → run.Has c.val → mapped runs expansions c = [.ofNat (run.image c.val)] →
      Origin runs expansions c
  | ofExpansion (ns : List Nat) :
      (c.val, ns) ∈ expansions → mapped runs expansions c = ns.map .ofNat →
      Origin runs expansions c

theorem origin (runs : List CaseRun) (expansions : List (Nat × List Nat)) (c : CodePoint) :
    Origin runs expansions c := by
  cases hrun : shifted? runs c.val with
  | some n =>
    obtain ⟨run, hmem, hn, rfl⟩ := shifted?_eq_some hrun
    exact .ofRun run hmem hn (by rw [mapped, hrun])
  | none =>
    cases hlookup : expansions.lookup c.val with
    | some ns =>
      obtain ⟨before, after, hsplit, -⟩ := List.lookup_eq_some_iff.mp hlookup
      exact .ofExpansion ns (by simp [hsplit]) (by rw [mapped, hrun, hlookup])
    | none =>
      refine .self hrun (fun hmem => ?_) (by rw [mapped, hrun, hlookup])
      obtain ⟨e, he, heq⟩ := List.mem_map.mp hmem
      simpa [heq] using List.lookup_eq_none_iff.mp hlookup e he

/-! ## Sets of code points in tables -/

def CaseRun.codes (run : CaseRun) : Nat :=
  progression run.step ((run.last - run.first) / run.step + 1) <<< run.first

def CaseRun.images (run : CaseRun) : Nat := moved run.shift run.codes

/-- The sets of all runs together, with some code points more. -/
def gathered (f : CaseRun → Nat) (runs : List CaseRun) (ns : List Nat) : Nat :=
  union (runs.map f) ||| listed ns

theorem testBit_gathered {f : CaseRun → Nat} {runs : List CaseRun} {ns : List Nat} {n : Nat} :
    (gathered f runs ns).testBit n = true ↔ (∃ run ∈ runs, (f run).testBit n = true) ∨ n ∈ ns := by
  simp [gathered]

def domain (runs : List CaseRun) (expansions : List (Nat × List Nat)) : Nat :=
  gathered CaseRun.codes runs (expansions.map Prod.fst)

theorem CaseRun.testBit_codes {run : CaseRun} (hstep : 0 < run.step)
    (hrun : run.first ≤ run.last) {n : Nat} : run.codes.testBit n = true ↔ run.Has n := by
  rw [codes, Nat.testBit_shiftLeft, Bool.and_eq_true, decide_eq_true_eq, testBit_progression hstep,
    Nat.lt_succ_iff,
    Has]
  constructor
  · rintro ⟨hfirst, hmod, hcount⟩
    have hoffset : run.step * ((n - run.first) / run.step) = n - run.first :=
      Nat.mul_div_cancel' (Nat.dvd_of_mod_eq_zero hmod)
    have hle := Nat.mul_le_mul_left run.step hcount
    have := Nat.mul_div_le (run.last - run.first) run.step
    exact ⟨hfirst, by omega, hmod⟩
  · rintro ⟨hfirst, hlast, hmod⟩
    exact ⟨hfirst, hmod, Nat.div_le_div_right (by omega)⟩

/-- The runs are in ascending order, their steps lead on, they map every code point to another one,
and what is not in them becomes several characters. -/
structure IsMapping (runs : List CaseRun) (expansions : List (Nat × List Nat)) : Prop where
  ascending : isAscending 0 (bounds runs) = true
  moves : ∀ run ∈ runs, 0 < run.step ∧ run.shift ≠ 0 ∧ 0 ≤ (run.first : Int) + run.shift ∧
    (run.last : Int) + run.shift < 0x110000
  grows : ∀ e ∈ expansions, 1 < e.2.length ∧ ∀ n ∈ e.2, n < 0x110000

instance (runs : List CaseRun) (expansions : List (Nat × List Nat)) :
    Decidable (IsMapping runs expansions) :=
  decidable_of_iff (isAscending 0 (bounds runs) = true ∧
    (∀ run ∈ runs, 0 < run.step ∧ run.shift ≠ 0 ∧
      0 ≤ (run.first : Int) + run.shift ∧ (run.last : Int) + run.shift < 0x110000) ∧
      ∀ e ∈ expansions, 1 < e.2.length ∧ ∀ n ∈ e.2, n < 0x110000)
    ⟨fun h => ⟨h.1, h.2.1, h.2.2⟩, fun h => ⟨h.ascending, h.moves, h.grows⟩⟩

variable {run : CaseRun} {n : Nat}

theorem IsMapping.testBit_codes (h : IsMapping runs expansions) (hrun : run ∈ runs) :
    run.codes.testBit n = true ↔ run.Has n :=
  CaseRun.testBit_codes (h.moves run hrun).1
    (bounds_of_isAscending h.ascending _ (List.mem_map_of_mem hrun)).2

theorem IsMapping.image_eq (h : IsMapping runs expansions) (hrun : run ∈ runs) (hn : run.Has n) :
    (run.image n : Int) = n + run.shift ∧ run.image n < 0x110000 := by
  obtain ⟨-, -, hlow, hhigh⟩ := h.moves run hrun
  obtain ⟨hfirst, hlast, -⟩ := hn
  unfold CaseRun.image
  omega

theorem IsMapping.testBit_images (h : IsMapping runs expansions)
    (hrun : run ∈ runs) (hn : run.Has n) : run.images.testBit (run.image n) = true :=
  testBit_moved.mpr ⟨n, (h.testBit_codes hrun).mpr hn, (h.image_eq hrun hn).1.symm⟩

theorem IsMapping.testBit_domain (h : IsMapping runs expansions) :
    (domain runs expansions).testBit n = true ↔
    (∃ run ∈ runs, run.Has n) ∨ n ∈ expansions.map Prod.fst := by
  rw [domain, testBit_gathered]
  exact or_congr_left (exists_congr fun run => and_congr_right fun hrun => h.testBit_codes hrun)

theorem IsMapping.mapped_of_notMem (h : IsMapping runs expansions)
    (hc : (domain runs expansions).testBit c.val = false) : mapped runs expansions c = [c] := by
  rw [← Bool.not_eq_true, h.testBit_domain, not_or] at hc
  cases origin runs expansions c with
  | self _ _ hself => exact hself
  | ofRun run hrun hn _ => exact absurd ⟨run, hrun, hn⟩ hc.1
  | ofExpansion ns hns _ => exact absurd (List.mem_map_of_mem (f := Prod.fst) hns) hc.2

theorem IsMapping.mapped_of_has (h : IsMapping runs expansions) (hrun : run ∈ runs)
    (hn : run.Has c.val) : mapped runs expansions c = [.ofNat (run.image c.val)] := by
  rw [mapped, shifted?_of_mem h.ascending hrun hn]

/-- A character that the tables of a mapping have becomes something else. -/
theorem IsMapping.mapped_ne_of_mem (h : IsMapping runs expansions)
    (hc : (domain runs expansions).testBit c.val = true) : mapped runs expansions c ≠ [c] := by
  intro heq
  cases origin runs expansions c with
  | self hrun hexpansion _ =>
    rcases h.testBit_domain.mp hc with ⟨run, hin, hmem⟩ | hmem
    · rw [shifted?_of_mem h.ascending hin hmem] at hrun
      cases hrun
    · exact hexpansion hmem
  | ofRun run hrun hmem himage =>
    have hmoves := (h.moves run hrun).2.1
    obtain ⟨hshift, hlt⟩ := h.image_eq hrun hmem
    have hval := congrArg CodePoint.val (List.singleton_inj.mp (himage.symm.trans heq))
    rw [CodePoint.val_ofNat hlt] at hval
    omega
  | ofExpansion ns hns himage =>
    have hgrows := (h.grows _ hns).1
    have hlength := congrArg List.length (himage.symm.trans heq)
    simp only [List.length_map, List.length_singleton] at hlength hgrows
    omega

theorem IsMapping.mapped_ne_nil (h : IsMapping runs expansions) (c : CodePoint) :
    mapped runs expansions c ≠ [] := by
  cases origin runs expansions c with
  | self _ _ himage => simp [himage]
  | ofRun _ _ _ himage => simp [himage]
  | ofExpansion ns hns himage =>
    have hgrows := (h.grows _ hns).1
    rw [himage, Ne, List.map_eq_nil_iff]
    rintro rfl
    cases hgrows

end Unicode

/-! ## Upper case -/

namespace Unicode

def upperDomain : Nat := domain upperRuns upperExpansions

def upperHeads : Nat :=
  gathered CaseRun.images upperRuns (upperExpansions.filterMap fun e => e.2.head?)

theorem upper_table : IsMapping upperRuns upperExpansions ∧ upperHeads &&& upperDomain = 0 := by
  decide +kernel

theorem isMapping_upper : IsMapping upperRuns upperExpansions := upper_table.1

theorem upperHead_notMem {n : Nat} (h : upperHeads.testBit n = true) :
    upperDomain.testBit n = false :=
  not_testBit_of_land_eq_zero upper_table.2 h

end Unicode

namespace CodePoint

open Unicode

variable {c h : CodePoint} {rest : Text}

theorem upper_of_notMem (hc : upperDomain.testBit c.val = false) : c.upper = [c] :=
  isMapping_upper.mapped_of_notMem hc

theorem upper_ne_of_mem (hc : upperDomain.testBit c.val = true) : c.upper ≠ [c] :=
  isMapping_upper.mapped_ne_of_mem hc

theorem upper_ne_nil (c : CodePoint) : c.upper ≠ [] := isMapping_upper.mapped_ne_nil c

theorem upper_of_head (hc : c.upper = h :: rest) : h.upper = [h] := by
  cases origin upperRuns upperExpansions c with
  | self _ _ hupper =>
    rw [upper, hupper] at hc
    cases hc
    exact hupper
  | ofRun run hrun hmem hupper =>
    rw [upper, hupper] at hc
    cases hc
    refine upper_of_notMem (upperHead_notMem ?_)
    rw [val_ofNat (isMapping_upper.image_eq hrun hmem).2]
    exact testBit_gathered.mpr (.inl ⟨run, hrun, isMapping_upper.testBit_images hrun hmem⟩)
  | ofExpansion ns hns hupper =>
    rw [upper, hupper] at hc
    obtain ⟨n, ns, rfl, rfl, -⟩ := List.map_eq_cons_iff.mp hc
    refine upper_of_notMem (upperHead_notMem ?_)
    rw [val_ofNat ((isMapping_upper.grows _ hns).2 n List.mem_cons_self)]
    exact testBit_gathered.mpr (.inr (List.mem_filterMap.mpr ⟨_, hns, rfl⟩))

/-- No upper case starts with a small letter of ASCII, which the first run has. -/
theorem notSmall_of_head (hc : c.upper = h :: rest) : h.val < 0x61 ∨ 0x7A < h.val := by
  have hrun : (⟨0x61, 0x7A, 1, -0x20⟩ : CaseRun) ∈ upperRuns := List.mem_cons_self
  by_contra hin
  have hsmall : upperDomain.testBit h.val = true :=
    isMapping_upper.testBit_domain.mpr
      (.inl ⟨_, hrun, (by omega : 0x61 ≤ h.val), (by omega : h.val ≤ 0x7A), Nat.mod_one _⟩)
  exact upper_ne_of_mem hsmall (upper_of_head hc)

end CodePoint

/-! ## Lower case -/

/-- The signs of ohm, kelvin and angstrom and the theta symbol, each with the letter whose lower
case it has. -/
def CodePoint.signs : List (CodePoint × CodePoint) :=
  [('\u2126', '\u03A9'), ('\u212A', 'K'), ('\u212B', '\u00C5'), ('\u03F4', '\u0398')]

namespace Unicode

/-- Digraphs of a capital and a small letter, whose lower case is that of two capitals. -/
def titles : List Nat := [0x01C5, 0x01C8, 0x01CB, 0x01F2]

def sharing : Nat := listed (titles ++ CodePoint.signs.map fun s => s.1.val)

def CaseRun.owners (run : CaseRun) : Nat := run.codes ^^^ (run.codes &&& sharing)

def smallForms : Nat := gathered CaseRun.images lowerRuns titles

/-- The tables of the lower case are in order, what does not share its lower case has one of its
own, and all these forms have another upper case. -/
theorem lower_table : IsMapping lowerRuns lowerExpansions ∧
    areApart 0 (lowerRuns.map fun run => moved run.shift run.owners) = true ∧
    smallForms &&& upperDomain = smallForms := by decide +kernel

theorem isMapping_lower : IsMapping lowerRuns lowerExpansions := lower_table.1

theorem testBit_upperDomain_of_small {n : Nat} (h : smallForms.testBit n = true) :
    upperDomain.testBit n = true :=
  testBit_of_land_eq_self lower_table.2.2 h

def IsPair (n m : Nat) : Prop :=
  ∃ run ∈ lowerRuns, run.Has n ∧ sharing.testBit n = false ∧ m = run.image n

theorem IsPair.unique {n n' m : Nat} (h : IsPair n m) (h' : IsPair n' m) : n = n' := by
  obtain ⟨run, hrun, hn, hown, rfl⟩ := h
  obtain ⟨run', hrun', hn', hown', heq⟩ := h'
  have himage := (isMapping_lower.image_eq hrun hn).1
  have himage' := (isMapping_lower.image_eq hrun' hn').1
  by_cases hsame : run = run'
  · subst hsame
    omega
  · have howner : ∀ {r : CaseRun} {k : Nat}, r ∈ lowerRuns → r.Has k → sharing.testBit k = false →
        (moved r.shift r.owners).testBit (r.image k) = true := by
      intro r k hr hk hkown
      refine testBit_moved.mpr ⟨k, ?_, (isMapping_lower.image_eq hr hk).1.symm⟩
      simp [CaseRun.owners, (isMapping_lower.testBit_codes hr).mpr hk, hkown]
    have hcommon :=
      not_testBit_of_land_eq_zero (land_eq_zero_of_areApart lower_table.2.1 hrun hrun' hsame)
      (howner hrun hn hown)
    rw [heq, howner hrun' hn' hown'] at hcommon
    cases hcommon

end Unicode

namespace CodePoint

open Unicode

variable {c b l g : CodePoint}

theorem lower_ne_nil (c : CodePoint) : c.lower ≠ [] := isMapping_lower.mapped_ne_nil c

/-- The capital I with a dot, the only character whose lower case is two. -/
def dottedI : CodePoint := '\u0130'

def dotAbove : CodePoint := '\u0307'

theorem lower_dottedI : dottedI.lower = [ofChar 'i', dotAbove] ∧ lower 'I' = [ofChar 'i'] ∧
    upper 'I' = [ofChar 'I'] := by
  decide +kernel

theorem sign_spec : ∀ s ∈ signs, s.1.lower = s.2.lower ∧ s.1.upper = [s.1] ∧ s.2.upper = [s.2] ∧
    s.2 ≠ dottedI ∧ s.2 ∉ signs.map Prod.fst ∧ ∀ t ∈ signs, s.2 = t.2 → s.1 = t.1 := by
  decide +kernel

/-- An upper case that is no sign is its own lower case, or makes a pair with it. -/
theorem exists_lower (hc : c.upper = [c]) (hdotted : c ≠ dottedI) (hsign : c ∉ signs.map Prod.fst) :
    ∃ l, c.lower = [l] ∧ (l = c ∨ IsPair c.val l.val) := by
  cases origin lowerRuns lowerExpansions c with
  | self _ _ hlower => exact ⟨c, hlower, .inl rfl⟩
  | ofRun run hrun hmem hlower =>
    refine ⟨ofNat (run.image c.val), hlower,
      .inr ⟨run, hrun, hmem, ?_, val_ofNat (isMapping_lower.image_eq hrun hmem).2⟩⟩
    rw [← Bool.not_eq_true, sharing, testBit_listed, List.mem_append, not_or]
    constructor
    · intro htitle
      exact upper_ne_of_mem (testBit_upperDomain_of_small (testBit_gathered.mpr (.inr htitle))) hc
    · intro hval
      obtain ⟨s, hs, heq⟩ := List.mem_map.mp hval
      exact hsign (List.mem_map.mpr ⟨s, hs, eq_iff_val.mpr heq⟩)
  | ofExpansion ns hns _ =>
    have hval : c.val = 0x0130 := by
      simpa [lowerExpansions] using (List.mem_map_of_mem (f := Prod.fst) hns)
    exact absurd (eq_iff_val.mpr hval) hdotted

/-- The letter `b` that has the lower case `l` of `c`: `c` itself, or what the sign `c` stands
for. -/
structure LowersTo (c b l : CodePoint) : Prop where
  lower : c.lower = [l]
  letter : c = b ∨ (c, b) ∈ signs
  upper : b.upper = [b]
  pair : l = b ∨ IsPair b.val l.val

theorem exists_lowersTo (hc : c.upper = [c]) (hdotted : c ≠ dottedI) : ∃ b l, LowersTo c b l := by
  by_cases hsign : c ∈ signs.map Prod.fst
  · obtain ⟨s, hs, rfl⟩ := List.mem_map.mp hsign
    obtain ⟨hlower, -, hupper, hnotDotted, hnotSign, -⟩ := sign_spec s hs
    obtain ⟨l, hl, hpair⟩ := exists_lower hupper hnotDotted hnotSign
    exact ⟨s.2, l, hlower.trans hl, .inr hs, hupper, hpair⟩
  · obtain ⟨l, hl, hpair⟩ := exists_lower hc hdotted hsign
    exact ⟨c, l, hl, .inl rfl, hc, hpair⟩

theorem upper_ne_of_isPair {n : Nat} (h : IsPair n l.val) : l.upper ≠ [l] := by
  obtain ⟨run, hrun, hn, -, heq⟩ := h
  refine upper_ne_of_mem (testBit_upperDomain_of_small ?_)
  rw [heq]
  exact testBit_gathered.mpr (.inl ⟨run, hrun, isMapping_lower.testBit_images hrun hn⟩)

theorem LowersTo.unique {b' : CodePoint} (h : LowersTo c b l) (h' : LowersTo g b' l) : b = b' := by
  rcases h.pair with rfl | hpair <;> rcases h'.pair with rfl | hpair'
  · rfl
  · exact absurd h.upper (upper_ne_of_isPair hpair')
  · exact absurd h'.upper (upper_ne_of_isPair hpair)
  · exact eq_iff_val.mpr (hpair.unique hpair')

/-- Two upper cases with the same lower case are the same, or one is a sign that stands for the
other. -/
theorem eq_of_lower_eq (hc : c.upper = [c]) (hg : g.upper = [g]) (hcDotted : c ≠ dottedI)
    (hgDotted : g ≠ dottedI) (h : c.lower = g.lower) : c = g ∨ (c, g) ∈ signs ∨ (g, c) ∈ signs := by
  obtain ⟨b, l, lowers⟩ := exists_lowersTo hc hcDotted
  obtain ⟨b', l', lowers'⟩ := exists_lowersTo hg hgDotted
  obtain rfl : l = l' := List.singleton_inj.mp (lowers.lower.symm.trans (h.trans lowers'.lower))
  obtain rfl := lowers.unique lowers'
  rcases lowers.letter with rfl | hsign <;> rcases lowers'.letter with rfl | hsign'
  · exact .inl rfl
  · exact .inr (.inr hsign')
  · exact .inr (.inl hsign)
  · exact .inl ((sign_spec _ hsign).2.2.2.2.2 _ hsign' rfl)

end CodePoint

/-! ## Lower case in ASCII -/

namespace CodePoint

open Unicode

variable {c : CodePoint}

def kelvin : CodePoint := '\u212A'

/-- The characters beyond ASCII that have an upper case in ASCII, with that in small letters. -/
def disguises : List (CodePoint × Text) :=
  [('\u00DF', "ss"), ('\u0131', "i"), ('\u017F', "s"), ('\uFB00', "ff"), ('\uFB01', "fi"),
    ('\uFB02', "fl"),
   ('\uFB03', "ffi"), ('\uFB04', "ffl"), ('\uFB05', "st"), ('\uFB06', "st")]

def isLatin (c : CodePoint) : Bool := c.isAscii || c == kelvin

theorem isLatin_iff : c.isLatin = true ↔ c.val < 0x80 ∨ c.val = 0x212A := by
  simp [isLatin, isAscii, eq_iff_val, kelvin]

theorem isLatin_of_isAscii (h : c.isAscii = true) : c.isLatin = true := by
  rw [isLatin, h, Bool.true_or]

/-- Upper and lower case of these characters have the same lower case, which is ASCII, and only
letters have another upper case. -/
theorem latin_spec (h : c.isLatin = true) : (c.upper = [c] ∨ c.isLetter = true) ∧
    c.upper.flatMap lower = c.lower ∧ c.lower.flatMap lower = c.lower ∧
    ∀ d ∈ c.lower, d.isAscii = true := by
  have htable : ∀ n ∈ 0x212A :: List.range 0x80,
      (upperDomain.testBit n = false ∨
        (ofNat n).isLetter = true ∧ (ofNat n).upper.flatMap lower = (ofNat n).lower) ∧
      (ofNat n).lower.flatMap lower = (ofNat n).lower ∧
        ∀ d ∈ (ofNat n).lower, d.isAscii = true := by decide +kernel
  have hmem : c.val ∈ 0x212A :: List.range 0x80 := by
    rw [List.mem_cons, List.mem_range]
    exact (isLatin_iff.mp h).symm
  obtain ⟨hupper, hlower⟩ := htable c.val hmem
  rw [ofNat_val] at hupper hlower
  rcases hupper with hout | ⟨hletter, hsame⟩
  · have hself := upper_of_notMem hout
    exact ⟨.inl hself, by rw [hself, List.flatMap_singleton], hlower⟩
  · exact ⟨.inr hletter, hsame, hlower⟩

end CodePoint

namespace Unicode

open CodePoint

/-- A run whose images are not Latin, but for those of ASCII and of the exceptions. -/
def CaseRun.Avoids (exceptions : List Nat) (run : CaseRun) : Prop :=
  run.last < 0x80 ∨ run.first = run.last ∧ run.first ∈ exceptions ∨
    0x80 ≤ (run.first : Int) + run.shift ∧
      ((run.last : Int) + run.shift < 0x212A ∨ 0x212A < (run.first : Int) + run.shift)

instance (exceptions : List Nat) (run : CaseRun) : Decidable (run.Avoids exceptions) :=
  inferInstanceAs (Decidable (_ ∨ _))

def disguised : List Nat := disguises.map fun e => e.1.val

theorem avoids_table : (∀ run ∈ lowerRuns, run.Avoids [kelvin.val]) ∧
    (∀ run ∈ upperRuns, run.Avoids disguised) ∧
    ∀ e ∈ upperExpansions, e.1 ∈ disguised ∨ ∃ n ∈ e.2, (CodePoint.ofNat n).isLatin = false := by
  decide +kernel

theorem IsMapping.isLatin_of_image {runs : List CaseRun} {expansions : List (Nat × List Nat)}
    (h : IsMapping runs expansions) {run : CaseRun} (hrun : run ∈ runs) {exceptions : List Nat}
    (havoids : run.Avoids exceptions) {n : Nat} (hn : run.Has n)
    (hlatin : (CodePoint.ofNat (run.image n)).isLatin = true) : n < 0x80 ∨ n ∈ exceptions := by
  obtain ⟨hshift, hlt⟩ := h.image_eq hrun hn
  obtain ⟨hfirst, hlast, -⟩ := hn
  rw [isLatin_iff, val_ofNat hlt] at hlatin
  rcases havoids with hascii | ⟨hsingle, hmem⟩ | hoff
  · exact .inl (by omega)
  · exact .inr ((by omega : run.first = n) ▸ hmem)
  · omega

end Unicode

namespace CodePoint

open Unicode

variable {c : CodePoint}

theorem isLatin_of_lower (h : ∀ d ∈ c.lower, d.isLatin = true) : c.isLatin = true := by
  cases origin lowerRuns lowerExpansions c with
  | self _ _ hlower => exact h c (by simp [lower, hlower])
  | ofRun run hrun hmem hlower =>
    have himage := h _ (by rw [lower, hlower]; exact List.mem_singleton_self _)
    have hlatin := isMapping_lower.isLatin_of_image hrun (avoids_table.1 run hrun) hmem himage
    rw [List.mem_singleton] at hlatin
    exact isLatin_iff.mpr hlatin
  | ofExpansion ns hns hlower =>
    obtain ⟨-, rfl⟩ : c.val = 0x0130 ∧ ns = [0x0069, 0x0307] := by simpa [lowerExpansions] using hns
    have := h (ofNat 0x0307) (by simp [lower, hlower])
    exact absurd this (by decide)

/-- A character whose upper case is Latin is so itself, or is a disguise. -/
theorem isLatin_or_mem_disguises (h : ∀ d ∈ c.upper, d.isLatin = true) :
    c.isLatin = true ∨ ∃ letters, (c, letters) ∈ disguises := by
  have hdisguise : c.val ∈ disguised → ∃ letters, (c, letters) ∈ disguises := by
    intro hmem
    obtain ⟨⟨d, letters⟩, hd, hval⟩ := List.mem_map.mp hmem
    exact ⟨letters, eq_iff_val.mpr hval ▸ hd⟩
  cases origin upperRuns upperExpansions c with
  | self _ _ hupper => exact .inl (h c (by simp [upper, hupper]))
  | ofRun run hrun hmem hupper =>
    have himage := h _ (by rw [upper, hupper]; exact List.mem_singleton_self _)
    rcases isMapping_upper.isLatin_of_image hrun (avoids_table.2.1 run hrun) hmem himage with
      hascii | hlisted
    · exact .inl (isLatin_iff.mpr (.inl hascii))
    · exact .inr (hdisguise hlisted)
  | ofExpansion ns hns hupper =>
    rcases avoids_table.2.2 _ hns with hlisted | ⟨n, hn, hnot⟩
    · exact .inr (hdisguise hlisted)
    · have := h (ofNat n) (by rw [upper, hupper]; exact List.mem_map_of_mem hn)
      cases hnot.symm.trans this

theorem disguise_spec :
    ∀ e ∈ disguises, e.1.isLatin = false ∧ e.1.upper.flatMap lower = e.2.flatMap lower ∧
    ∀ d ∈ e.1.upper, d.isLetter = true ∧ ∀ l ∈ d.lower, l.isLetter = true := by decide +kernel

end CodePoint

namespace Text

open CodePoint

theorem lower_sigma : CodePoint.lower 'Σ' = [ofChar 'σ'] := by decide +kernel

theorem lower_singleton (c : CodePoint) : lower [c] = c.lower := by
  by_cases hc : c = 'Σ'
  · subst hc
    rw [lower_sigma]
    rfl
  · simp [lower, lowerAfter, hc]

@[simp] theorem lowerFirst_cons (c : CodePoint) (rest : Text) :
    lowerFirst (c :: rest) = c.lower ++ rest := by
  rw [lowerFirst, lower_singleton]

theorem lowerAfter_of_notMem {t : Text} (h : ofChar 'Σ' ∉ t) (before : Text) :
    lowerAfter before t = t.flatMap CodePoint.lower := by
  induction t generalizing before with
  | nil => rfl
  | cons c rest ih =>
    rw [List.mem_cons, not_or] at h
    rw [lowerAfter, if_neg (Ne.symm h.1), ih h.2, List.flatMap_cons]

/-- Neither lower case of a sigma is ASCII. -/
theorem exists_notAscii_of_mem {t : Text} (h : ofChar 'Σ' ∈ t) (before : Text) :
    ∃ d ∈ lowerAfter before t, d.isAscii = false := by
  induction t generalizing before with
  | nil => cases h
  | cons c rest ih =>
    rw [lowerAfter]
    rcases List.mem_cons.mp h with rfl | hmem
    · rw [if_pos rfl]
      split
      · exact ⟨'ς', List.mem_append_left _ List.mem_cons_self, by decide⟩
      · exact ⟨'σ', List.mem_append_left _ List.mem_cons_self, by decide⟩
    · obtain ⟨d, hd, hnot⟩ := ih hmem (c :: before)
      exact ⟨d, List.mem_append_right _ hd, hnot⟩

theorem lower_eq_iff {t w : Text} (hw : ∀ d ∈ w, d.isAscii = true) :
    t.lower = w ↔ t.flatMap CodePoint.lower = w := by
  by_cases hsigma : ofChar 'Σ' ∈ t
  · constructor
    · rintro rfl
      obtain ⟨d, hd, hnot⟩ := exists_notAscii_of_mem hsigma []
      cases hnot.symm.trans (hw d hd)
    · rintro rfl
      have hmem : ofChar 'σ' ∈ CodePoint.lower 'Σ' := by simp [lower_sigma]
      have := hw _ (List.mem_flatMap.mpr ⟨_, hsigma, hmem⟩)
      exact absurd this (by decide)
  · rw [lower, lowerAfter_of_notMem hsigma]

end Text

end LocaleGen
