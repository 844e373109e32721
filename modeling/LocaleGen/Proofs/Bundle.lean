import LocaleGen.Artifact
import LocaleGen.Proofs.DartLiteral
import LocaleGen.Proofs.Result
import Mathlib

/-!
# Embedded payloads

The payloads of a list of languages are embedded if the locales of the list are distinct and each of
them has a payload, both of which have literals (`bundleEntries_eq_ok`). The literals of Dart stand
for the payloads, whichever of the two kinds they are: `bundleEntries_denotes`.
-/

namespace LocaleGen

/-! ## The literals of an entry -/

namespace Artifact

def Embeds (target : Target) (payloads : Dict Text Text) (e : IndexEntry)
    (pair : Text × Text) : Prop :=
  ∃ payload, payloads.get? e.language.locale = some payload ∧
    target.stringLiteral e.language.locale = .ok pair.1 ∧ target.payloadLiteral payload = .ok pair.2

theorem bundleEntries_eq_ok {target : Target} {payloads : Dict Text Text} {before : List Text}
    {entries : List IndexEntry} {pairs : List (Text × Text)} :
    bundleEntries target payloads before entries = .ok pairs ↔
      (IndexEntry.locales entries).Nodup ∧
      (∀ locale ∈ before, locale ∉ IndexEntry.locales entries) ∧
        List.Forall₂ (Embeds target payloads) entries pairs := by
  induction entries generalizing before pairs with
  | nil => simp [bundleEntries, IndexEntry.locales, eq_comm]
  | cons e rest ih =>
    rw [bundleEntries, List.forall₂_cons_left_iff]
    simp only [IndexEntry.locales, List.map_cons, List.nodup_cons, List.mem_cons, not_or] at ih ⊢
    split
    · next hmem =>
      constructor
      · intro h
        cases h
      · rintro ⟨-, hbefore, -⟩
        exact absurd rfl (hbefore _ hmem).1
    · next hmem =>
      split
      · next hnone =>
        constructor
        · intro h
          cases h
        · rintro ⟨-, -, pair, pairs, ⟨payload, hpayload, -⟩, -⟩
          rw [hnone] at hpayload
          cases hpayload
      · next payload hpayload =>
        simp only [bind_eq_ok, ih, Except.ok.injEq, List.forall_mem_cons]
        constructor
        · rintro ⟨literal, hliteral, locale, hlocale, pairs, ⟨hnodup, ⟨hnot, hbefore⟩, hpairs⟩, rfl⟩
          refine ⟨⟨hnot, hnodup⟩, fun l hl => ⟨fun h => hmem (h ▸ hl), hbefore l hl⟩, _, pairs, ?_,
            hpairs, rfl⟩
          exact ⟨payload, hpayload, hlocale, hliteral⟩
        · rintro ⟨⟨hnot, hnodup⟩, hbefore, ⟨locale, literal⟩, pairs,
            ⟨found, hfound, hlocale, hliteral⟩, hpairs, rfl⟩
          rw [hpayload] at hfound
          cases hfound
          exact ⟨literal, hliteral, locale, hlocale, pairs,
            ⟨hnodup, ⟨hnot, fun l hl => (hbefore l hl).2⟩, hpairs⟩, rfl⟩

end Artifact

/-! ## The literals of Dart -/

namespace Dart

open Text

theorem payloadLiteral_eq (p : Text) : Target.dart.payloadLiteral p =
    if canEmbedRaw p then .ok (rawLiteral p) else Target.dart.stringLiteral p := rfl

/-- The literal of a payload stands for the payload, whichever kind it is of. -/
theorem readLiteral_payloadLiteral {p literal left : Text}
    (h : Target.dart.payloadLiteral p = .ok literal) (hleft : left.head? ≠ some '"') :
    readLiteral (literal ++ left) = some (p, left) := by
  rw [payloadLiteral_eq] at h
  split at h
  · next hraw =>
    cases h
    exact readLiteral_rawLiteral left hraw
  · exact readLiteral_stringLiteral (mapError_eq_ok.mp h) hleft

theorem payloadLiteral_of_isScalar {p : Text} (h : p.IsScalar) :
    ∃ literal, Target.dart.payloadLiteral p = .ok literal := by
  rw [payloadLiteral_eq]
  split
  · exact ⟨_, rfl⟩
  · exact ⟨_, mapError_eq_ok.mpr (stringLiteral_of_isScalar h)⟩

/-- In front of anything but another quote the literals of an entry are read as the locale and its
payload. -/
def Denotes (payloads : Dict Text Text) (e : IndexEntry) (pair : Text × Text) : Prop :=
  ∃ payload, payloads.get? e.language.locale = some payload ∧
    ∀ left : Text, left.head? ≠ some '"' →
      readLiteral (pair.1 ++ left) = some (e.language.locale, left) ∧
      readLiteral (pair.2 ++ left) = some (payload, left)

theorem denotes_of_embeds {payloads : Dict Text Text} {e : IndexEntry} {pair : Text × Text}
    (h : Artifact.Embeds .dart payloads e pair) : Denotes payloads e pair := by
  obtain ⟨payload, hpayload, hlocale, hliteral⟩ := h
  exact ⟨payload, hpayload, fun left hleft =>
    ⟨readLiteral_stringLiteral (mapError_eq_ok.mp hlocale) hleft,
      readLiteral_payloadLiteral hliteral hleft⟩⟩

theorem exists_embeds {payloads : Dict Text Text} {entries : List IndexEntry}
    (h : ∀ e ∈ entries, e.language.locale.IsScalar ∧
      ∃ payload, payloads.get? e.language.locale = some payload ∧ payload.IsScalar) :
    ∃ pairs, List.Forall₂ (Artifact.Embeds .dart payloads) entries pairs := by
  induction entries with
  | nil => exact ⟨[], .nil⟩
  | cons e rest ih =>
    obtain ⟨⟨hlocale, payload, hpayload, hscalar⟩, hrest⟩ := List.forall_mem_cons.mp h
    obtain ⟨literal, hliteral⟩ := payloadLiteral_of_isScalar hscalar
    obtain ⟨pairs, hpairs⟩ := ih hrest
    exact ⟨(_, literal) :: pairs, .cons ⟨payload, hpayload,
      mapError_eq_ok.mpr (stringLiteral_of_isScalar hlocale),
      hliteral⟩ hpairs⟩

/-- A payload that can be embedded raw is what the raw literal stands for, and any other one without
surrogates is what its literal by escapes stands for. So the payloads of languages with distinct
locales are embedded by literals that stand for them, in the order of the list. -/
theorem bundleEntries_denotes :
    (∀ p, canEmbedRaw p = true →
      Target.dart.payloadLiteral p = .ok (rawLiteral p) ∧ readRaw (rawLiteral p) = some (p, [])) ∧
    (∀ p : Text, canEmbedRaw p = false → p.IsScalar →
      ∃ literal, Target.dart.payloadLiteral p = .ok literal ∧ readShort literal = some (p, [])) ∧
    ∀ (payloads : Dict Text Text) (entries : List IndexEntry),
      (∀ pairs, Artifact.bundleEntries .dart payloads [] entries = .ok pairs →
        List.Forall₂ (Denotes payloads) entries pairs) ∧
      ((IndexEntry.locales entries).Nodup →
        (∀ e ∈ entries, e.language.locale.IsScalar ∧
          ∃ payload, payloads.get? e.language.locale = some payload ∧ payload.IsScalar) →
        ∃ pairs, Artifact.bundleEntries .dart payloads [] entries = .ok pairs) := by
  have hend : ([] : Text).head? ≠ some '"' := by simp
  refine ⟨fun p h => ⟨by rw [payloadLiteral_eq, if_pos h], ?_⟩, fun p hraw h => ?_,
    fun payloads entries => ⟨fun pairs h => ?_, fun hnodup h => ?_⟩⟩
  · simpa using readRaw_rawLiteral [] h
  · have hliteral := stringLiteral_of_isScalar h
    refine ⟨_, by rw [payloadLiteral_eq, hraw]; exact mapError_eq_ok.mpr hliteral, ?_⟩
    simpa using readShort_literal (t := p) hend
  · obtain ⟨-, -, hpairs⟩ := Artifact.bundleEntries_eq_ok.mp h
    exact hpairs.imp fun _ _ => denotes_of_embeds
  · obtain ⟨pairs, hpairs⟩ := exists_embeds h
    exact ⟨pairs, Artifact.bundleEntries_eq_ok.mpr ⟨hnodup, by simp, hpairs⟩⟩

end Dart

end LocaleGen
