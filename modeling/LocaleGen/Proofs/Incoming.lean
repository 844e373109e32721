import LocaleGen.Proofs.Result
import LocaleGen.Proofs.Utf8
import LocaleGen.Text.Stream
import Mathlib

/-!
# Text that arrives is the text of the file

Where a file is cut into chunks makes no difference: if its bytes stand for a text, the lines that
arrive are those of this text, and if they stand for none, a fault ends what arrives
(`Incoming.lines_of_decode`, `Incoming.exists_fault`).

`Utf8.Decodes` says character by character which bytes stand for a text. What it says of a whole can
be said of its parts (`Utf8.Decodes.append`, `Utf8.Decodes.cancel`). A chunk that ends within a
character breaks off with an unexpected end and nothing else, and these are the bytes that wait for
the next chunk.
-/

namespace LocaleGen

namespace Utf8

/-! ## One character -/

section

variable {needed taken value : Nat} {bounds : Nat × Nat} {bytes left rest : Bytes}
    {b : UInt8} {c : CodePoint}

/-- The bytes of a character say where it ends: what follows them does not matter, and without the
last of them there is no character yet. -/
theorem readTail_eq_char (h : readTail needed taken value bounds bytes = .char c left) :
    ∃ tail, bytes = tail ++ left ∧ tail.length = needed ∧
      (∀ more, readTail needed taken value bounds (tail ++ more) = .char c more) ∧
      ∀ short missing, tail = short ++ missing → missing ≠ [] →
        readTail needed taken value bounds short =
          .faulty (taken + short.length) .unexpectedEnd [] := by
  induction needed generalizing taken value bounds bytes with
  | zero =>
    rw [readTail] at h
    obtain ⟨rfl, rfl⟩ := Read.char.inj h
    refine ⟨[], rfl, rfl, fun _ => rfl, fun short missing hsplit hmissing => ?_⟩
    exact absurd (List.append_eq_nil_iff.mp hsplit.symm).2 hmissing
  | succ needed ih =>
    cases bytes with
    | nil => cases h
    | cons b rest =>
      rw [readTail] at h
      split at h
      · next within =>
        obtain ⟨tail, rfl, hlength, hmore, hshort⟩ := ih h
        refine ⟨b :: tail, rfl, by rw [List.length_cons, hlength], fun more => ?_,
          fun short missing hsplit hmissing => ?_⟩
        · rw [List.cons_append, readTail, if_pos within, hmore]
        · cases short with
          | nil => rfl
          | cons b' short =>
            obtain ⟨rfl, hrest⟩ : b = b' ∧ tail = short ++ missing := List.cons.inj hsplit
            rw [readTail, if_pos within, hshort short missing hrest hmissing, List.length_cons]
            congr 1
            omega
      · cases h

/-- The second byte of a character and how many follow it bound its number. -/
theorem readTail_bounds (h : readTail (needed + 1) taken value bounds bytes = .char c left) :
    ∃ second n, bounds.1 ≤ second ∧ second ≤ bounds.2 ∧ c = .ofNat n ∧
      (value * 0x40 + second % 0x40) * 0x40 ^ needed ≤ n ∧
      n < (value * 0x40 + second % 0x40 + 1) * 0x40 ^ needed := by
  induction needed generalizing taken value bounds bytes with
  | zero =>
    cases bytes with
    | nil => cases h
    | cons b rest =>
      rw [readTail] at h
      split at h
      · next within =>
        obtain ⟨rfl, -⟩ := Read.char.inj h
        exact ⟨b.toNat, _, within.1, within.2, rfl, by omega, by omega⟩
      · cases h
  | succ needed ih =>
    cases bytes with
    | nil => cases h
    | cons b rest =>
      rw [readTail] at h
      split at h
      · next within =>
        obtain ⟨third, n, -, -, hc, hlow, hhigh⟩ := ih h
        have six : third % 0x40 < 0x40 := Nat.mod_lt _ (by decide)
        refine ⟨b.toNat, n, within.1, within.2, hc, le_trans ?_ hlow, hhigh.trans_le ?_⟩
        · rw [Nat.pow_succ', ← Nat.mul_assoc]
          exact Nat.mul_le_mul_right _ (by omega)
        · rw [Nat.pow_succ', ← Nat.mul_assoc]
          exact Nat.mul_le_mul_right _ (by omega)
      · cases h

theorem width_ofNat {n : Nat} (h : n < 0x110000) :
    width (.ofNat n) =
      if n < 0x80 then 1 else if n < 0x800 then 2 else if n < 0x10000 then 3 else 4 := by
  rw [width, CodePoint.ofNat, dif_pos h]

/-- The first byte of a character says how many follow it, as many as its number asks for. -/
theorem readChar_cases (h : readChar b rest = .char c left) :
    (b.toNat < 0x80 ∧ width c = 1 ∧ rest = left ∧ ∀ more, readChar b more = .char c more) ∨
      ∃ needed value, width c = needed + 2 ∧
        (∀ more, readChar b more = readTail (needed + 1) 1 value (secondBounds b) more) := by
  have hb : b.toNat < 256 := b.toNat_lt
  have hbounds := secondBounds_eq b
  unfold readChar at h
  simp only at h
  split_ifs at h with h1 h2 h3 h4 h5
  · obtain ⟨rfl, rfl⟩ := Read.char.inj h
    refine .inl ⟨h1, ?_, rfl, fun more => by simp only [readChar, if_pos h1]⟩
    rw [width_ofNat (by omega), if_pos h1]
  · obtain ⟨second, n, -, -, rfl, hlow, hhigh⟩ := readTail_bounds h
    refine .inr ⟨0, b.toNat % 0x20, ?_,
      fun more => by simp only [readChar, if_neg h1, if_neg h2, if_pos h3]⟩
    rw [Nat.pow_zero, Nat.mul_one] at hlow hhigh
    rw [width_ofNat (by omega), if_neg (by omega), if_pos (by omega)]
  · obtain ⟨second, n, hfirst, hlast, rfl, hlow, hhigh⟩ := readTail_bounds h
    refine .inr ⟨1, b.toNat % 0x10, ?_, fun more => by simp only [readChar, if_neg h1, if_neg h2,
      if_neg h3, if_pos h4]⟩
    -- After E0 the second byte is large enough for a number that takes three bytes.
    have hsmall : b.toNat % 0x10 = 0 → 0xA0 ≤ second ∧ second ≤ 0xBF := by
      intro hzero
      rw [hbounds, if_pos (by omega)] at hfirst hlast
      exact ⟨hfirst, hlast⟩
    rw [Nat.pow_one] at hlow hhigh
    rw [width_ofNat (by omega), if_neg (by omega), if_neg (by omega), if_pos (by omega)]
  · obtain ⟨second, n, hfirst, hlast, rfl, hlow, hhigh⟩ := readTail_bounds h
    refine .inr ⟨2, b.toNat % 0x08, ?_, fun more => by simp only [readChar, if_neg h1, if_neg h2,
      if_neg h3, if_neg h4, if_pos h5]⟩
    -- After F0 it is large enough for four bytes, after F4 small enough for a code point.
    have hsmall : b.toNat % 0x08 = 0 → 0x90 ≤ second ∧ second ≤ 0xBF := by
      intro hzero
      rw [hbounds, if_neg (by omega), if_neg (by omega), if_pos (by omega)] at hfirst hlast
      exact ⟨hfirst, hlast⟩
    have hlarge : b.toNat % 0x08 = 4 → 0x80 ≤ second ∧ second ≤ 0x8F := by
      intro hfour
      rw [hbounds, if_neg (by omega), if_neg (by omega), if_neg (by omega),
        if_pos (by omega)] at hfirst hlast
      exact ⟨hfirst, hlast⟩
    norm_num only at hlow hhigh
    rw [width_ofNat (by omega), if_neg (by omega), if_neg (by omega), if_neg (by omega)]

/-- A character at the front is there whatever follows its bytes, and without the last of them its
bytes end unexpectedly. -/
theorem readChar_eq_char (h : readChar b rest = .char c left) :
    ∃ tail, rest = tail ++ left ∧ tail.length + 1 = width c ∧
    (∀ more, readChar b (tail ++ more) = .char c more) ∧
      ∀ short missing, tail = short ++ missing → missing ≠ [] →
      ∃ n, readChar b short = .faulty n .unexpectedEnd [] := by
  rcases readChar_cases h with ⟨-, hwidth, rfl, hread⟩ | ⟨needed, value, hwidth, hread⟩
  · refine ⟨[], rfl, hwidth.symm, hread, fun short missing hsplit hmissing => ?_⟩
    exact absurd (List.append_eq_nil_iff.mp hsplit.symm).2 hmissing
  · rw [hread] at h
    obtain ⟨tail, rfl, hlength, hmore, hshort⟩ := readTail_eq_char h
    refine ⟨tail, rfl, by omega, fun more => by rw [hread, hmore],
      fun short missing hsplit hmissing => ?_⟩
    exact ⟨_, by rw [hread, hshort short missing hsplit hmissing]⟩

end

/-! ## Many characters -/

/-- Bytes that stand for a text, character by character. -/
inductive Decodes : Bytes → Text → Prop
  | nil : Decodes [] []
  | char {b : UInt8} {rest left : Bytes} {c : CodePoint} {t : Text} :
      readChar b rest = .char c left → Decodes left t → Decodes (b :: rest) (c :: t)

section

variable {bytes before after : Bytes} {t u w : Text} {fuel position : Nat}

/-- What is left after a character is no longer than what stands behind its first byte. -/
theorem length_le_of_readChar {b : UInt8} {rest left : Bytes} {c : CodePoint}
    (h : readChar b rest = .char c left) : left.length ≤ rest.length := by
  obtain ⟨tail, rfl, -⟩ := readChar_eq_char h
  rw [List.length_append]
  omega

@[simp] theorem decodes_nil_iff : Decodes [] t ↔ t = [] := by
  constructor
  · intro h
    cases h
    rfl
  · rintro rfl
    exact .nil

theorem decodes_cons_iff {b : UInt8} {rest : Bytes} :
    Decodes (b :: rest) t ↔ ∃ c left u, readChar b rest = .char c left ∧
    Decodes left u ∧ t = c :: u := by
  constructor
  · intro h
    cases h with
    | char hread hrest => exact ⟨_, _, _, hread, hrest, rfl⟩
  · rintro ⟨c, left, u, hread, hrest, rfl⟩
    exact .char hread hrest

theorem decodeFrom_eq_ok (hfuel : bytes.length ≤ fuel) :
    decodeFrom fuel false position bytes = .ok t ↔ Decodes bytes t := by
  induction fuel generalizing bytes position t with
  | zero =>
    obtain rfl : bytes = [] := List.eq_nil_of_length_eq_zero (by omega)
    rw [decodes_nil_iff, decodeFrom, Except.ok.injEq, eq_comm]
  | succ fuel ih =>
    cases bytes with
    | nil => rw [decodes_nil_iff, decodeFrom, Except.ok.injEq, eq_comm]
    | cons b rest =>
      rw [decodes_cons_iff, decodeFrom]
      cases hread : readChar b rest with
      | faulty length reason left => simp
      | char c left =>
        have shorter := length_le_of_readChar hread
        have hleft : left.length ≤ fuel := by
          rw [List.length_cons] at hfuel
          omega
        simp only [bind_eq_ok, ih hleft, Except.ok.injEq, Read.char.injEq]
        constructor
        · rintro ⟨u, hu, rfl⟩
          exact ⟨c, left, u, ⟨rfl, rfl⟩, hu, rfl⟩
        · rintro ⟨_, _, u, ⟨rfl, rfl⟩, hu, rfl⟩
          exact ⟨u, hu, rfl⟩

theorem decode_eq_ok : decode bytes = .ok t ↔ Decodes bytes t := decodeFrom_eq_ok le_rfl

/-- A fault stands behind characters, where a byte starts none. -/
theorem decodeFrom_eq_error {f : Fault} (h : decodeFrom fuel false position bytes = .error f) :
    ∃ before t b rest left, bytes = before ++ b :: rest ∧ Decodes before t ∧
    f.position = position + before.length ∧
      readChar b rest = .faulty f.length f.reason left := by
  induction fuel generalizing bytes position with
  | zero => cases bytes <;> cases h
  | succ fuel ih =>
    cases bytes with
    | nil => cases h
    | cons b rest =>
      rw [decodeFrom] at h
      cases hread : readChar b rest with
      | char c left =>
        rw [hread] at h
        obtain ⟨tail, rfl, hwidth, hmore, -⟩ := readChar_eq_char hread
        rcases bind_eq_error.mp h with h | ⟨t, -, h⟩
        · obtain ⟨before, t, b', rest', left', rfl, decodes, hposition, hfault⟩ := ih h
          refine ⟨b :: tail ++ before, c :: t, b', rest', left', by simp,
            .char (hmore before) decodes, ?_, hfault⟩
          rw [hposition, List.length_append, List.length_cons]
          omega
        · cases h
      | faulty length reason left =>
        rw [hread] at h
        cases h
        exact ⟨[], [], b, rest, left, rfl, .nil, rfl, hread⟩

theorem Decodes.append (h : Decodes before t) (h' : Decodes after u) :
    Decodes (before ++ after) (t ++ u) := by
  induction h with
  | nil => exact h'
  | char hread _ ih =>
    obtain ⟨tail, rfl, -, hmore, -⟩ := readChar_eq_char hread
    rw [List.cons_append, List.append_assoc]
    exact .char (hmore _) ih

/-- What follows bytes that stand for a text stands for the rest of the text. -/
theorem Decodes.cancel (h : Decodes before t) (h' : Decodes (before ++ after) w) :
    ∃ u, w = t ++ u ∧ Decodes after u := by
  induction h generalizing w with
  | nil => exact ⟨w, rfl, h'⟩
  | char hread _ ih =>
    obtain ⟨tail, rfl, -, hmore, -⟩ := readChar_eq_char hread
    rw [List.cons_append, List.append_assoc] at h'
    obtain ⟨_, _, _, hread', hrest, rfl⟩ := decodes_cons_iff.mp h'
    obtain ⟨rfl, rfl⟩ := Read.char.inj ((hmore _).symm.trans hread')
    obtain ⟨u, rfl, hu⟩ := ih hrest
    exact ⟨u, rfl, hu⟩

theorem Decodes.readAllFrom (h : Decodes bytes t) (hfuel : bytes.length ≤ fuel) :
    readAllFrom fuel bytes = t.map some := by
  induction h generalizing fuel with
  | nil =>
    unfold Utf8.readAllFrom
    rfl
  | char hread _ ih =>
    have shorter := length_le_of_readChar hread
    rw [List.length_cons] at hfuel
    cases fuel with
    | zero => omega
    | succ fuel =>
      rw [Utf8.readAllFrom, hread]
      simp only [List.map_cons]
      rw [ih (by omega)]

theorem Decodes.decodeLossy (h : Decodes bytes t) : decodeLossy bytes = t := by
  rw [Utf8.decodeLossy, readAll, h.readAllFrom le_rfl, List.map_map]
  exact List.map_id' t

/-- Where a text is cut into two, either both parts stand for texts or the first one ends within a
character. -/
theorem Decodes.cut (h : Decodes (before ++ after) w) {f : Fault}
    (hfault : decode before = .error f) :
    f.reason = .unexpectedEnd ∧ ∃ t u, Decodes (before.take f.position) t ∧
      Decodes (before.drop f.position ++ after) u ∧ w = t ++ u := by
  obtain ⟨start, t, b, rest, left, rfl, decodes, hposition, hread⟩ := decodeFrom_eq_error hfault
  rw [Nat.zero_add] at hposition
  rw [List.append_assoc] at h
  obtain ⟨u, rfl, hu⟩ := decodes.cancel h
  refine ⟨?_, t, u, ?_, ?_, rfl⟩
  · cases hu with
    | char hread' _ =>
      obtain ⟨tail, hrest, -, hmore, hshort⟩ := readChar_eq_char hread'
      rcases List.append_eq_append_iff.mp hrest with ⟨missing, htail, -⟩ | ⟨more, hmore', -⟩
      · by_cases hmissing : missing = []
        · rw [hmissing, List.append_nil] at htail
          rw [← htail, ← List.append_nil tail, hmore] at hread
          cases hread
        · obtain ⟨n, hend⟩ := hshort rest missing htail hmissing
          rw [hread] at hend
          exact (Read.faulty.inj hend).2.1
      · rw [hmore', hmore] at hread
        cases hread
  · rw [hposition, List.take_left]
    exact decodes
  · rw [hposition, List.drop_left]
    exact hu

end

end Utf8

/-! ## Chunks -/

/-- A text that does not end with a carriage return is normalized by itself. -/
theorem Text.normalizeNewlines_append_of_getLast? {t : Text}
    (h : t.getLast? ≠ some (CodePoint.ofChar '\r')) (u : Text) :
    normalizeNewlines (t ++ u) = normalizeNewlines t ++ normalizeNewlines u := by
  have tail {c : CodePoint} {rest : Text}
    (h : (c :: rest).getLast? ≠ some (CodePoint.ofChar '\r')) :
      rest.getLast? ≠ some (CodePoint.ofChar '\r') := by
    intro hrest
    rw [List.getLast?_cons, hrest] at h
    exact h rfl
  fun_induction normalizeNewlines t with
  | case1 => rfl
  | case2 => exact absurd rfl h
  | case3 rest ih =>
    rw [List.cons_append, List.cons_append, normalizeNewlines.eq_def]
    simp only [if_true, ih (tail (tail h)), List.cons_append]
  | case4 d rest hd ih =>
    rw [List.cons_append, List.cons_append, normalizeNewlines.eq_def]
    simp only [if_true, hd, if_false, List.cons_append] at ih ⊢
    rw [ih (tail h)]
  | case5 c rest hc ih =>
    rw [List.cons_append, normalizeNewlines_cons hc, ih (tail h), List.cons_append]

namespace Incoming

variable {s : Incoming} {t u w arrived : Text} {bytes left pending : Bytes}
    {isLast : Bool} {fuel count : Nat}

def carried (s : Incoming) : Text := if s.halfEnd then ['\r'] else []

/-- The bytes that are still to be read, and those that wait, stand for this text. -/
def Promises (s : Incoming) (t : Text) : Prop := Utf8.Decodes (s.pending ++ s.left) t

/-- What is delivered and what waits make up the normalized text. Nothing waits at the end. -/
theorem deliver_spec (s : Incoming) (t left pending) (hu : isLast = true → u = []) :
    Text.normalizeNewlines (s.carried ++ (t ++ u)) =
      (s.deliver t left pending isLast).1 ++
        Text.normalizeNewlines ((s.deliver t left pending isLast).2.carried ++ u) := by
  have hstart : (if s.halfEnd then CodePoint.ofChar '\r' :: t else t) = s.carried ++ t := by
    unfold carried
    split <;> rfl
  unfold deliver
  simp only [hstart, carried, ← List.append_assoc]
  generalize hcarried : (if s.halfEnd = true then [CodePoint.ofChar '\r'] else []) ++ t = given
  by_cases hwaits : (!isLast && decide (given.getLast? = some (CodePoint.ofChar '\r'))) = true
  · simp only [hwaits, if_true]
    have hlast : given.getLast? = some (CodePoint.ofChar '\r') := by
      simpa using (Bool.and_eq_true_iff.mp hwaits).2
    rw [← Text.normalizeNewlines_append, ← List.append_assoc, List.dropLast_append_getLast? _ hlast]
    rw [List.singleton_append, List.head?_cons]
    decide
  · simp only [hwaits, if_false, Bool.false_eq_true, List.nil_append]
    cases isLast with
    | true =>
      rw [hu rfl, List.append_nil, Text.normalizeNewlines, List.append_nil]
    | false => exact Text.normalizeNewlines_append_of_getLast? (by simpa using hwaits) u

/-- A read of bytes that stand for a text succeeds, and the rest of the text is still to come. -/
theorem read_of_promises (h : s.Promises w) (count : Nat) :
    ∃ out rest u, s.read count = .ok (out, rest) ∧ rest.left = s.left.drop count ∧ rest.Promises u ∧
      Text.normalizeNewlines (s.carried ++ w) = out ++ Text.normalizeNewlines (rest.carried ++ u) ∧
      (s.left = [] → u = [] ∧ rest.carried = []) := by
  have hcut : s.pending ++ s.left = (s.pending ++ s.left.take count) ++ s.left.drop count := by
    rw [List.append_assoc, List.take_append_drop]
  unfold Promises at h
  rw [hcut] at h
  unfold read
  simp only
  cases hdecode : Utf8.decode (s.pending ++ s.left.take count) with
  | ok t =>
    obtain ⟨u, rfl, hu⟩ := (Utf8.decode_eq_ok.mp hdecode).cancel h
    have hend : s.left.isEmpty = true → u = [] := by
      intro hempty
      rw [List.isEmpty_iff.mp hempty, List.drop_nil] at hu
      cases hu
      rfl
    refine ⟨_, _, u, rfl, rfl, hu, deliver_spec s t _ _ hend, fun hleft => ?_⟩
    have hempty : s.left.isEmpty = true := List.isEmpty_iff.mpr hleft
    refine ⟨hend hempty, ?_⟩
    simp only [carried, hempty, Bool.not_true, Bool.false_and, Bool.false_eq_true, if_false]
  | error f =>
    obtain ⟨hreason, t, u, htaken, hrest, rfl⟩ := h.cut hdecode
    -- The whole is a text, so only a part of it can end within a character.
    have hnot : s.left ≠ [] := by
      intro hleft
      rw [hleft] at h hdecode
      rw [List.take_nil, List.drop_nil, List.append_nil] at h
      rw [List.take_nil, Utf8.decode_eq_ok.mpr h] at hdecode
      cases hdecode
    have hunfinished : (isUnfinished (s.pending ++ s.left.take count) f && !s.left.isEmpty) =
        true := by
      rw [isUnfinished, hreason]
      simpa using hnot
    simp only [hunfinished, if_true, htaken.decodeLossy]
    have hempty : s.left.isEmpty = false := by simpa using hnot
    exact ⟨_, _, u, rfl, rfl, hrest, deliver_spec s t _ _ (by simp [hempty]),
      fun hleft => absurd hleft hnot⟩

/-- After a read that succeeds, what the rest stands for is the end of what the whole stands for. -/
theorem rest_of_read {out : Text} {rest : Incoming} (h : s.read count = .ok (out, rest)) :
    rest.left = s.left.drop count ∧ (s.left = [] → rest.pending = []) ∧
      ∃ t, ∀ u, rest.Promises u → s.Promises (t ++ u) := by
  have hcut : s.pending ++ s.left = (s.pending ++ s.left.take count) ++ s.left.drop count := by
    rw [List.append_assoc, List.take_append_drop]
  unfold read at h
  simp only at h
  split at h
  · next t hdecode =>
    cases h
    refine ⟨rfl, fun _ => rfl, t, fun u hrest => ?_⟩
    rw [Promises, hcut]
    exact (Utf8.decode_eq_ok.mp hdecode).append hrest
  · next f hdecode =>
    split at h
    · next hunfinished =>
      cases h
      obtain ⟨start, t, b, more, left, hbytes, decodes, hposition, -⟩ :=
        Utf8.decodeFrom_eq_error hdecode
      rw [Nat.zero_add] at hposition
      have htake : (s.pending ++ s.left.take count).take f.position = start := by
        rw [hbytes, hposition, List.take_left]
      refine ⟨rfl, fun hleft => ?_, t, fun u hrest => ?_⟩
      · simp [hleft] at hunfinished
      · rw [Promises, hcut, ← List.take_append_drop f.position (s.pending ++ s.left.take count),
          htake, List.append_assoc]
        exact decodes.append hrest
    · cases h

/-! ## Whole files -/

theorem linesFrom_of_promises (h : s.Promises w) (hfuel : s.left.length < fuel) :
    linesFrom fuel arrived s = (arrived ++ Text.normalizeNewlines (s.carried ++ w), none) := by
  induction fuel generalizing s w arrived with
  | zero => omega
  | succ fuel ih =>
    obtain ⟨out, rest, u, hread, hleft, hrest, htext, hlast⟩ := read_of_promises h chunkSize
    rw [linesFrom, hread]
    by_cases hempty : s.left = []
    · obtain ⟨rfl, hcarried⟩ := hlast hempty
      rw [hcarried, List.append_nil, Text.normalizeNewlines, List.append_nil] at htext
      simp only [hempty, List.isEmpty_nil, if_true, htext]
    · have hshorter : rest.left.length < fuel := by
        have := List.length_pos_iff.mpr hempty
        rw [hleft, List.length_drop, chunkSize]
        omega
      simp only [List.isEmpty_iff, hempty, if_false, ih hrest hshorter, htext, List.append_assoc]

/-- Of bytes that stand for a text the whole text arrives. -/
theorem lines_of_decode (h : Utf8.decode bytes = .ok t) :
    lines bytes = (t.normalizeNewlines, none) := by
  have hpromises : (start bytes).Promises t := Utf8.decode_eq_ok.mp h
  exact linesFrom_of_promises hpromises (Nat.lt_succ_self bytes.length)

theorem promises_of_linesFrom (h : linesFrom fuel arrived s = (t, none))
    (hfuel : s.left.length < fuel) : ∃ w, s.Promises w := by
  induction fuel generalizing s arrived with
  | zero => omega
  | succ fuel ih =>
    rw [linesFrom] at h
    split at h
    · cases h
    · next out rest hread =>
      obtain ⟨hleft, hpending, t, whole⟩ := rest_of_read hread
      split at h
      · next hempty =>
        have hnil : s.left = [] := List.isEmpty_iff.mp hempty
        have hrest : rest.Promises [] := by
          rw [Promises, hpending hnil, hleft, hnil]
          exact .nil
        exact ⟨_, whole _ hrest⟩
      · next hempty =>
        have hshorter : rest.left.length < fuel := by
          have := List.length_pos_iff.mpr fun hnil => hempty (List.isEmpty_iff.mpr hnil)
          rw [hleft, List.length_drop, chunkSize]
          omega
        obtain ⟨u, hu⟩ := ih h hshorter
        exact ⟨_, whole u hu⟩

/-- Of bytes that stand for no text a fault ends what arrives. -/
theorem exists_fault {f : Utf8.Fault} (h : Utf8.decode bytes = .error f) :
    ∃ f', (lines bytes).2 = some f' := by
  cases hlines : lines bytes with
  | mk t fault =>
    cases fault with
    | some f' => exact ⟨f', rfl⟩
    | none =>
      obtain ⟨w, hw⟩ := promises_of_linesFrom hlines (Nat.lt_succ_self _)
      have hdecode : Utf8.decode bytes = .ok w := Utf8.decode_eq_ok.mpr hw
      rw [h] at hdecode
      cases hdecode

end Incoming

end LocaleGen
