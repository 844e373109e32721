import LocaleGen.Dict
import Mathlib

/-!
# Pairs gathered under their keys

A dictionary that is written from a list of pairs has the keys of the pairs in the order in which
each of them occurs first (`Dict.keys_ofList`), so what is first among its keys is first among the
pairs (`Dict.find?_keys_ofList`). Under a key it has the value of the last pair
(`Dict.get?_ofList_eq_some`).
-/

namespace LocaleGen

variable {α κ : Type}

def IsFirst (p : α → Prop) (as : List α) (a : α) : Prop :=
  ∃ before after, as = before ++ a :: after ∧ p a ∧ ∀ b ∈ before, ¬ p b

def IsLastOf (pairs : List (κ × α)) (k : κ) (v : α) : Prop :=
  ∃ before after, pairs = before ++ (k, v) :: after ∧ ∀ p ∈ after, p.1 ≠ k

theorem find?_eq_some_iff_isFirst {p : α → Prop} [DecidablePred p] {as : List α} {a : α} :
    as.find? (fun a => decide (p a)) = some a ↔ IsFirst p as a := by
  rw [List.find?_eq_some_iff_append, IsFirst]
  constructor
  · rintro ⟨ha, before, after, rfl, hbefore⟩
    exact ⟨before, after, rfl, of_decide_eq_true ha, fun b hb => by simpa using hbefore b hb⟩
  · rintro ⟨before, after, rfl, ha, hbefore⟩
    exact ⟨decide_eq_true ha, before, after, rfl, fun b hb => by simpa using hbefore b hb⟩

theorem IsFirst.mem {p : α → Prop} {as : List α} {a : α} (h : IsFirst p as a) : a ∈ as := by
  obtain ⟨before, after, rfl, -⟩ := h
  exact List.mem_append_right _ List.mem_cons_self

theorem IsFirst.prop {p : α → Prop} {as : List α} {a : α} (h : IsFirst p as a) : p a := by
  obtain ⟨-, -, -, ha, -⟩ := h
  exact ha

/-- One more member is new or changes nothing. -/
theorem eraseDups_concat [BEq α] [LawfulBEq α] (as : List α) (a : α) [Decidable (a ∈ as)] :
    (as ++ [a]).eraseDups = if a ∈ as then as.eraseDups else as.eraseDups ++ [a] := by
  rw [List.eraseDups_append, List.removeAll, List.filter_singleton]
  split_ifs with hmem <;> simp [hmem, List.eraseDups_cons]

namespace Dict

variable [DecidableEq κ]

theorem mem_entries_iff {d : Dict κ α} {p : κ × α} : p ∈ d.entries ↔ d.get? p.1 = some p.2 := by
  refine ⟨get?_of_mem, fun h => ?_⟩
  obtain ⟨before, after, heq, -⟩ := List.lookup_eq_some_iff.mp h
  exact heq ▸ List.mem_append_right _ List.mem_cons_self

/-- A dictionary has the value of the last pair with a key. -/
theorem get?_ofList_eq_some {pairs : List (κ × α)} {k : κ} {v : α} :
    (ofList pairs).get? k = some v ↔ IsLastOf pairs k v := by
  rw [get?_ofList, List.lookup_eq_some_iff]
  constructor
  · rintro ⟨after, before, heq, hafter⟩
    refine ⟨before.reverse, after.reverse, by rw [← List.reverse_reverse pairs, heq]; simp,
      fun p hp => ?_⟩
    have hne : (p.1 != k) = true := by simpa [bne_comm] using hafter p (List.mem_reverse.mp hp)
    exact bne_iff_ne.mp hne
  · rintro ⟨before, after, rfl, hafter⟩
    refine ⟨after.reverse, before.reverse, by simp, fun p hp => ?_⟩
    simpa using (hafter p (List.mem_reverse.mp hp)).symm

@[simp] theorem mem_keys_ofList {pairs : List (κ × α)} {k : κ} :
    k ∈ (ofList pairs).keys ↔ k ∈ pairs.map Prod.fst := by
  rw [mem_keys_iff, isSome_get?_ofList]

theorem keys_ofList_append_singleton (pairs : List (κ × α)) (p : κ × α) :
    (ofList (pairs ++ [p])).keys =
      if p.1 ∈ pairs.map Prod.fst then (ofList pairs).keys else (ofList pairs).keys ++ [p.1] := by
  rw [ofList, List.foldl_append, List.foldl_cons, List.foldl_nil, keys_insert, ← ofList]
  simp only [mem_keys_ofList]

/-- The first key with a property is the first one among the pairs. -/
theorem find?_keys_ofList (q : κ → Bool) (pairs : List (κ × α)) :
    (ofList pairs).keys.find? q = (pairs.map Prod.fst).find? q := by
  induction pairs using List.reverseRecOn with
  | nil => rfl
  | append_singleton pairs p ih =>
    rw [keys_ofList_append_singleton, List.map_append, List.find?_append, ← ih]
    split
    · next hmem =>
      -- the key is there already, so it is found in front or not at all
      cases hfound : (ofList pairs).keys.find? q with
      | some k => rfl
      | none =>
        have hnot : q p.1 = false := by
          simpa using List.find?_eq_none.mp hfound p.1 (mem_keys_ofList.mpr hmem)
        simp [hnot]
    · rw [List.find?_append]
      rfl

/-- The keys stand in the order in which they occur first. -/
theorem keys_ofList [BEq κ] [LawfulBEq κ] (pairs : List (κ × α)) :
    (ofList pairs).keys = (pairs.map Prod.fst).eraseDups := by
  induction pairs using List.reverseRecOn with
  | nil => rfl
  | append_singleton pairs p ih =>
    rw [keys_ofList_append_singleton, List.map_append, List.map_singleton, eraseDups_concat, ih]
    congr

end Dict

end LocaleGen
