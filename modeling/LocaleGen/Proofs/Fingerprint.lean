import LocaleGen.Proofs.Gathering
import LocaleGen.Proofs.JsonReading
import LocaleGen.Proofs.LogLine
import LocaleGen.Proofs.Utf8
import LocaleGen.Session
import Mathlib

/-!
# What a checksum stands for

The text behind a checksum is the JSON of the locale and the phrases in use, whose keys are sorted
(`Text.lt_iff`). Sorted members are the same just if they are so in any order
(`Session.sorted_eq_sorted_iff`), and JSON is read back, so two states have one text just if they
have the same locale and the same phrases, in whatever order these were loaded
(`Session.fingerprint_eq_iff`). What two states with one checksum have to have in common otherwise
is a digest of two different texts: `Session.checksum_canonical`.
-/

namespace LocaleGen

/-! ## The order of texts -/

namespace Text

/-- Texts are sorted like the lists of the numbers of their characters. -/
theorem lt_iff {a b : Text} : lt a b = true ↔ a.map CodePoint.val < b.map CodePoint.val := by
  induction a generalizing b with
  | nil => cases b <;> simp [lt]
  | cons c a ih =>
    cases b with
    | nil => simp [lt]
    | cons d b => simp [lt, List.cons_lt_cons_iff, ih]

theorem not_lt_iff {a b : Text} : (!lt b a) = true ↔ a.map CodePoint.val ≤ b.map CodePoint.val := by
  rw [Bool.not_eq_true', ← Bool.not_eq_true, lt_iff, not_lt]

theorem map_val_injective : Function.Injective (List.map CodePoint.val) :=
  List.map_injective_iff.mpr fun _ _ h => CodePoint.eq_iff_val.mpr h

theorem IsScalar.isUnpaired {t : Text} (h : t.IsScalar) : t.IsUnpaired := by
  refine List.Pairwise.isChain (List.pairwise_of_forall_mem_list fun c _ d hd _ => ?_)
  have hscalar := h d hd
  simp only [CodePoint.isSurrogate, CodePoint.isLowSurrogate, Bool.and_eq_false_iff,
    decide_eq_false_iff_not] at hscalar ⊢
  omega

theorem IsPlain.isScalar {t : Text} (h : t.IsPlain) : t.IsScalar := by
  intro c hc
  have hplain := h c hc
  simp only [CodePoint.isPlain, CodePoint.isSurrogate, Bool.and_eq_true, Bool.and_eq_false_iff,
    decide_eq_true_eq,
    decide_eq_false_iff_not] at hplain ⊢
  omega

theorem IsScalar.append {t u : Text} (ht : t.IsScalar) (hu : u.IsScalar) : (t ++ u).IsScalar :=
  List.forall_mem_append.mpr ⟨ht, hu⟩

end Text

/-! ## Members in any order -/

namespace Dict

variable {κ α : Type} [DecidableEq κ]

/-- Dictionaries with the same values under the same keys have the same pairs, in some order. -/
theorem perm_entries_iff {d d' : Dict κ α} :
    d.entries.Perm d'.entries ↔ ∀ k, d.get? k = d'.get? k := by
  rw [List.perm_ext_iff_of_nodup (.of_map _ d.distinct) (.of_map _ d'.distinct)]
  constructor
  · intro h k
    ext v
    rw [← mem_entries_iff (p := (k, v)), ← mem_entries_iff (p := (k, v)), h]
  · intro h p
    rw [mem_entries_iff, mem_entries_iff, h]

end Dict

namespace Session

variable {α β : Type} {members members' : List (Text × α)}

theorem perm_sorted (members : List (Text × α)) : (sorted members).Perm members :=
  List.mergeSort_perm _ _

theorem pairwise_sorted (members : List (Text × α)) :
    (sorted members).Pairwise fun a b => a.1.map CodePoint.val ≤ b.1.map CodePoint.val := by
  have hsorted : (sorted members).Pairwise fun a b => (!Text.lt b.1 a.1) = true :=
    List.pairwise_mergeSort (fun a b c hab hbc => by rw [Text.not_lt_iff] at *; exact hab.trans hbc)
      (fun a b => by rw [Bool.or_eq_true, Text.not_lt_iff, Text.not_lt_iff]; exact le_total _ _) members
  exact hsorted.imp Text.not_lt_iff.mp

/-- Members whose names differ are sorted into one list, whatever their order. -/
theorem sorted_eq_sorted_iff (distinct : (members.map Prod.fst).Nodup) :
    sorted members = sorted members' ↔ members.Perm members' := by
  constructor
  · intro h
    exact (perm_sorted members).symm.trans (h ▸ perm_sorted members')
  · intro h
    refine List.Perm.eq_of_pairwise (fun a b ha hb hab hba => ?_) (pairwise_sorted members)
      (pairwise_sorted members')
      ((perm_sorted members).trans (h.trans (perm_sorted members').symm))
    have hname : a.1 = b.1 := Text.map_val_injective (le_antisymm hab hba)
    exact List.inj_on_of_nodup_map distinct ((perm_sorted members).subset ha)
      (h.symm.subset ((perm_sorted members').subset hb)) hname

theorem map_sorted (f : α → β) (members : List (Text × α)) :
    (sorted members).map (fun m => (m.1, f m.2)) = sorted (members.map fun m => (m.1, f m.2)) :=
  List.map_mergeSort fun _ _ _ _ => rfl

end Session

/-! ## Stores -/

def Store.Same (s t : Store) : Prop :=
  ∀ sectionKey, Option.Rel (fun p q : Phrases => ∀ key, p.get? key = q.get? key)
    (s.sections.get? sectionKey) (t.sections.get? sectionKey)

namespace Session

def phrasesValue (p : Phrases) : Json := .object ((sorted p.entries).map fun t => (t.1, .text t.2))

theorem phrasesValue_eq_iff {p q : Phrases} : phrasesValue p = phrasesValue q ↔
    ∀ key, p.get? key = q.get? key := by
  have injective : Function.Injective fun t : Text × Text => (t.1, Json.text t.2) := by
    rintro ⟨a, b⟩ ⟨c, d⟩ h
    cases h
    rfl
  rw [phrasesValue, phrasesValue, Json.object.injEq, (List.map_injective_iff.mpr injective).eq_iff,
    sorted_eq_sorted_iff p.distinct, Dict.perm_entries_iff]

theorem storeValue_eq (s : Store) :
    storeValue s = .object (sorted (s.sections.mapValues fun _ p => phrasesValue p).entries) :=
  congrArg Json.object (map_sorted phrasesValue s.sections.entries)

theorem get?_mapValues {κ α β : Type} [DecidableEq κ] (f : α → β) (d : Dict κ α) (k : κ) :
    (d.mapValues fun _ a => f a).get? k = (d.get? k).map f := by
  show (d.entries.map fun p => (p.1, f p.2)).lookup k = (d.entries.lookup k).map f
  induction d.entries with
  | nil => rfl
  | cons p rest ih =>
    rw [List.map_cons, List.lookup_cons, List.lookup_cons, ih]
    cases k == p.1 <;> rfl

@[simp] theorem storeValue_eq_iff {s t : Store} : storeValue s = storeValue t ↔ s.Same t := by
  rw [storeValue_eq, storeValue_eq, Json.object.injEq, sorted_eq_sorted_iff (Dict.distinct _),
    Dict.perm_entries_iff]
  refine forall_congr' fun sectionKey => ?_
  rw [get?_mapValues, get?_mapValues]
  cases s.sections.get? sectionKey <;> cases t.sections.get? sectionKey <;>
    simp [phrasesValue_eq_iff]

/-! ## The text behind a checksum -/

/-- What is in use consists of texts that have an encoding. -/
structure IsScalar (s : Session) : Prop where
  picked : s.picked.IsScalar
  sections : ∀ e ∈ s.store.sections.entries, e.1.IsScalar
  phrases : ∀ e ∈ s.store.sections.entries, ∀ t ∈ e.2.entries, t.1.IsScalar ∧ t.2.IsScalar

end Session

namespace Json

theorem isBlank_canonical : Style.IsBlank .canonical := ⟨by decide, by decide⟩

theorem isScalar_writeChar {c : CodePoint} (h : c.isSurrogate = false) :
    (writeChar false c).IsScalar := by
  have single : Text.IsScalar [c] := List.forall_mem_singleton.mpr h
  unfold writeChar
  split_ifs
  · exact List.forall_mem_cons.mpr ⟨by decide, single⟩
  · decide
  · decide
  · decide
  · decide
  · decide
  · exact (isPlain_numberEscape c).isScalar
  · exact single

theorem isScalar_writeText {t : Text} (h : t.IsScalar) : (writeText false t).IsScalar := by
  refine .append (.append (by decide) fun c hc => ?_) (by decide)
  obtain ⟨d, hd, hmem⟩ := List.mem_flatMap.mp hc
  exact isScalar_writeChar (h d hd) c hmem

theorem isScalar_writeMembers {members : List (Text × Json)}
    (h : ∀ m ∈ members, m.1.IsScalar ∧ (m.2.write .canonical).IsScalar) :
    (writeMembers .canonical members).IsScalar := by
  induction members with
  | nil => exact List.forall_mem_nil _
  | cons m members ih =>
    obtain ⟨⟨hname, hvalue⟩, hmembers⟩ := List.forall_mem_cons.mp h
    have first : (writeText false m.1 ++ ":" ++ Style.canonical.afterColon ++
        m.2.write .canonical).IsScalar :=
      .append (.append (.append (isScalar_writeText hname) (by decide)) (by decide)) hvalue
    cases members with
    | nil => exact first
    | cons n members =>
      exact .append (.append (.append first (by decide)) (by decide)) (ih hmembers)

theorem isScalar_write_object {members : List (Text × Json)}
    (h : ∀ m ∈ members, m.1.IsScalar ∧ (m.2.write .canonical).IsScalar) :
    ((object members).write .canonical).IsScalar := by
  rw [write]
  exact .append (.append (by decide) (isScalar_writeMembers h)) (by decide)

end Json

namespace Session

variable {s t : Session}

theorem nodup_sorted {α : Type} {members : List (Text × α)} (h : (members.map Prod.fst).Nodup) :
    ((sorted members).map Prod.fst).Nodup :=
  ((perm_sorted members).map Prod.fst).nodup_iff.mpr h

@[simp] theorem mem_sorted {α : Type} {members : List (Text × α)} {m : Text × α} :
    m ∈ sorted members ↔ m ∈ members :=
  (perm_sorted members).mem_iff

section

variable {p : Phrases} (h : ∀ t ∈ p.entries, t.1.IsScalar ∧ t.2.IsScalar)

include h

theorem isData_phrasesValue : (phrasesValue p).IsData := by
  refine .object ?_ (List.forall_mem_map.mpr fun t ht => ?_)
    (List.forall_mem_map.mpr fun t ht => ?_)
  · rw [List.map_map]
    exact nodup_sorted p.distinct
  · exact (h t (mem_sorted.mp ht)).1.isUnpaired
  · exact .text (h t (mem_sorted.mp ht)).2.isUnpaired

theorem isScalar_write_phrasesValue : ((phrasesValue p).write .canonical).IsScalar := by
  refine Json.isScalar_write_object (List.forall_mem_map.mpr fun t ht => ?_)
  obtain ⟨hkey, htext⟩ := h t (mem_sorted.mp ht)
  exact ⟨hkey, by rw [Json.write]; exact Json.isScalar_writeText htext⟩

end

theorem nesting_phrasesValue (p : Phrases) : (phrasesValue p).nesting ≤ 1 := by
  refine Nat.succ_le_succ (Json.nestingOfMembers_le.mpr (List.forall_mem_map.mpr fun t _ => ?_))
  exact Nat.zero_le 0

theorem nesting_storeValue (store : Store) : (storeValue store).nesting ≤ 2 :=
  Nat.succ_le_succ (Json.nestingOfMembers_le.mpr (List.forall_mem_map.mpr fun e _ =>
    nesting_phrasesValue e.2))

def stateValue (s : Session) : Json := .list [.text s.picked, storeValue s.store]

theorem isData_stateValue (h : s.IsScalar) : (stateValue s).IsData := by
  refine .list (List.forall_mem_cons.mpr ⟨.text h.picked.isUnpaired, List.forall_mem_singleton.mpr ?_⟩)
  refine .object ?_ (List.forall_mem_map.mpr fun e he => ?_)
    (List.forall_mem_map.mpr fun e he => ?_)
  · rw [List.map_map]
    exact nodup_sorted s.store.sections.distinct
  · exact (h.sections e (mem_sorted.mp he)).isUnpaired
  · exact isData_phrasesValue (h.phrases e (mem_sorted.mp he))

theorem nesting_stateValue [NestingLimits] (s : Session) :
    (stateValue s).nesting ≤ Json.depthLimit := by
  have hlimit : 3 ≤ Json.depthLimit := NestingLimits.three_le_reading
  refine le_trans (Nat.succ_le_succ (Json.nestingOfItems_le.mpr ?_)) hlimit
  exact List.forall_mem_cons.mpr ⟨Nat.zero_le 2,
    List.forall_mem_singleton.mpr (nesting_storeValue s.store)⟩

theorem isScalar_fingerprint (h : s.IsScalar) : s.fingerprint.IsScalar := by
  have hpicked : ((Json.text s.picked).write .canonical).IsScalar := by
    rw [Json.write]
    exact Json.isScalar_writeText h.picked
  have hstore : ((storeValue s.store).write .canonical).IsScalar :=
    Json.isScalar_write_object (List.forall_mem_map.mpr fun e he =>
      ⟨h.sections e (mem_sorted.mp he),
        isScalar_write_phrasesValue (h.phrases e (mem_sorted.mp he))⟩)
  rw [fingerprint, Json.write, Json.writeItems, Json.writeItems]
  exact .append (.append (by decide) (.append (.append (.append hpicked (by decide)) (by decide))
    hstore)) (by decide)

/-- Two states have one text just if they show the same. -/
theorem fingerprint_eq_iff (hs : s.IsScalar) (ht : t.IsScalar) :
    s.fingerprint = t.fingerprint ↔ s.picked = t.picked ∧ s.store.Same t.store := by
  rw [← storeValue_eq_iff]
  constructor
  · intro h
    have hread := Json.read_write Json.isBlank_canonical (isData_stateValue hs)
      (nesting_stateValue s)
    have hread' := Json.read_write Json.isBlank_canonical (isData_stateValue ht)
      (nesting_stateValue t)
    have hvalue : stateValue s = stateValue t :=
      Except.ok.inj (hread.symm.trans ((congrArg Json.read h).trans hread'))
    simpa [stateValue] using hvalue
  · rintro ⟨hpicked, hstore⟩
    rw [fingerprint, fingerprint, hpicked, hstore]

def shortDigest (bytes : Bytes) : Text := (Sha256.hexDigest bytes).take 16

theorem checksum_eq (h : s.IsScalar) :
    s.checksum = .ok (shortDigest (Utf8.encodeAll s.fingerprint)) := by
  rw [checksum, Utf8.encode_of_isScalar (isScalar_fingerprint h)]
  rfl

theorem encodeAll_injOn {a b : Text} (ha : a.IsScalar) (hb : b.IsScalar)
    (h : Utf8.encodeAll a = Utf8.encodeAll b) : a = b := by
  have hdecode := Utf8.decode_encodeAll ha
  rw [h, Utf8.decode_encodeAll hb] at hdecode
  exact (Except.ok.inj hdecode).symm

/-- The text behind the checksum is the same for two states just if they have the same locale and
the same phrases, in whatever order these were loaded. Then the checksums are the same, and
otherwise they are so only if the encodings of two different texts have digests that start alike. -/
theorem checksum_canonical (hs : s.IsScalar) (ht : t.IsScalar) :
    (s.fingerprint = t.fingerprint ↔ s.picked = t.picked ∧ s.store.Same t.store) ∧
    s.checksum = .ok (shortDigest (Utf8.encodeAll s.fingerprint)) ∧
    t.checksum = .ok (shortDigest (Utf8.encodeAll t.fingerprint)) ∧
    (s.picked = t.picked → s.store.Same t.store → s.checksum = t.checksum) ∧
    (s.checksum = t.checksum → ¬ (s.picked = t.picked ∧ s.store.Same t.store) →
      Utf8.encodeAll s.fingerprint ≠ Utf8.encodeAll t.fingerprint ∧
        shortDigest (Utf8.encodeAll s.fingerprint) =
          shortDigest (Utf8.encodeAll t.fingerprint)) := by
  have htext := fingerprint_eq_iff hs ht
  refine ⟨htext, checksum_eq hs, checksum_eq ht, fun hpicked hstore => ?_,
    fun hchecksum different => ⟨fun hbytes => ?_, ?_⟩⟩
  · rw [checksum_eq hs, checksum_eq ht, htext.mpr ⟨hpicked, hstore⟩]
  · exact different (htext.mp (encodeAll_injOn (isScalar_fingerprint hs) (isScalar_fingerprint ht) hbytes))
  · rw [checksum_eq hs, checksum_eq ht] at hchecksum
    exact Except.ok.inj hchecksum

def quotedSections : List (Text × Phrases) :=
  [("general", .ofList [("quote", "\"\\"), ("line", "a\nb")]), ("\"", .empty)]

def danishSession (sections : List (Text × Phrases)) : Session where
  credentials := ⟨"project", "key"⟩
  languages := []
  bundled := .empty
  picked := "da"
  debug := false
  store := ⟨.ofList sections⟩

theorem isScalar_danishSession :
    (danishSession quotedSections).IsScalar ∧ (danishSession quotedSections.reverse).IsScalar :=
  ⟨⟨by decide, by decide, by decide⟩, ⟨by decide, by decide, by decide⟩⟩

theorem checksum_canonical_danish :
    (danishSession quotedSections).IsScalar ∧ (danishSession quotedSections.reverse).IsScalar ∧
    (danishSession quotedSections).store ≠ (danishSession quotedSections.reverse).store ∧
    (danishSession quotedSections).checksum = (danishSession quotedSections.reverse).checksum := by
  obtain ⟨hs, ht⟩ := isScalar_danishSession
  have hperm : (danishSession quotedSections).store.sections.entries.Perm
      (danishSession quotedSections.reverse).store.sections.entries := by decide
  have same : (danishSession quotedSections).store.Same
      (danishSession quotedSections.reverse).store := fun sectionKey => by
    rw [Dict.perm_entries_iff.mp hperm sectionKey]
    cases (danishSession quotedSections.reverse).store.sections.get? sectionKey with
    | none => exact .none
    | some p => exact .some fun _ => rfl
  refine ⟨hs, ht, fun h => ?_, (checksum_canonical hs ht).2.2.2.1 rfl same⟩
  have hentries := congrArg (fun store => store.sections.entries.map Prod.fst) h
  exact absurd hentries (by decide)

end Session

end LocaleGen
