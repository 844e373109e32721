/-!
# Dictionaries

A `Dict` maps keys to values and keeps the order in which the keys came. Writing to a key that is
there keeps its place. No key occurs twice, which the type says.

* `get?` looks a key up, `insert` writes, `ofList` writes a list of pairs from the left.
* `keys_insert` and `get?_insert` say what a write does to both views.
-/

namespace LocaleGen

/-- The pairs with `k` mapped to `v`: in the place of `k` if it occurs, at the end otherwise. -/
def upsert {κ α : Type} [DecidableEq κ] (pairs : List (κ × α)) (k : κ) (v : α) : List (κ × α) :=
  match pairs with
  | [] => [(k, v)]
  | p :: rest => if p.1 = k then (k, v) :: rest else p :: upsert rest k v

theorem map_fst_upsert {κ α : Type} [DecidableEq κ] (pairs : List (κ × α)) (k : κ) (v : α) :
    (upsert pairs k v).map Prod.fst =
      if k ∈ pairs.map Prod.fst then pairs.map Prod.fst else pairs.map Prod.fst ++ [k] := by
  induction pairs with
  | nil => simp [upsert]
  | cons p rest ih =>
    by_cases h : p.1 = k
    · simp [upsert, h]
    · have h' : ¬ k = p.1 := fun e => h e.symm
      simp only [upsert, h, if_false, List.map_cons, ih, List.mem_cons, h', false_or]
      split <;> simp

theorem nodup_upsert {κ α : Type} [DecidableEq κ] {pairs : List (κ × α)} (k : κ) (v : α)
    (h : (pairs.map Prod.fst).Nodup) : ((upsert pairs k v).map Prod.fst).Nodup := by
  rw [map_fst_upsert]
  split
  · exact h
  · next hk => exact List.nodup_append.2 ⟨h, by simp, by simpa using fun a b hab e => hk (by
      subst e; exact List.mem_map.2 ⟨(a, b), hab, rfl⟩)⟩

theorem upsert_of_notMem {κ α : Type} [DecidableEq κ] {pairs : List (κ × α)} {k : κ}
    (h : k ∉ pairs.map Prod.fst) (v : α) : upsert pairs k v = pairs ++ [(k, v)] := by
  induction pairs with
  | nil => rfl
  | cons p rest ih =>
    rw [List.map_cons, List.mem_cons, not_or] at h
    simp [upsert, Ne.symm h.1, ih h.2]

theorem lookup_upsert {κ α : Type} [DecidableEq κ] (pairs : List (κ × α)) (k : κ) (v : α) (j : κ) :
    (upsert pairs k v).lookup j = if j = k then some v else pairs.lookup j := by
  induction pairs with
  | nil =>
    by_cases h : j = k
    · simp [upsert, h]
    · have hb : (j == k) = false := by simpa using h
      simp [upsert, List.lookup_cons, h, hb]
  | cons p rest ih =>
    obtain ⟨a, b⟩ := p
    by_cases h : a = k
    · subst h
      by_cases hj : j = a
      · simp [upsert, hj]
      · have hb : (j == a) = false := by simpa using hj
        simp [upsert, List.lookup_cons, hj, hb]
    · by_cases hj : j = a
      · simp [upsert, h, hj]
      · have hb : (j == a) = false := by simpa using hj
        simp [upsert, h, List.lookup_cons, ih, hb]

/-- Pairs in the order of insertion, with distinct keys. -/
structure Dict (κ α : Type) where
  entries : List (κ × α)
  distinct : (entries.map Prod.fst).Nodup
  deriving DecidableEq

namespace Dict

variable {κ α β : Type}

def empty : Dict κ α := ⟨[], List.nodup_nil⟩

instance : Inhabited (Dict κ α) := ⟨empty⟩

def keys (d : Dict κ α) : List κ := d.entries.map Prod.fst

def size (d : Dict κ α) : Nat := d.entries.length

def mapValues (f : κ → α → β) (d : Dict κ α) : Dict κ β :=
  ⟨d.entries.map fun p => (p.1, f p.1 p.2), by simpa [List.map_map, Function.comp_def] using d.distinct⟩

def filter (p : κ → Bool) (d : Dict κ α) : Dict κ α :=
  ⟨d.entries.filter fun e => p e.1, List.Nodup.sublist (List.filter_sublist.map _) d.distinct⟩

variable [DecidableEq κ]

def get? (d : Dict κ α) (k : κ) : Option α := d.entries.lookup k

def contains (d : Dict κ α) (k : κ) : Bool := (d.get? k).isSome

/-- Maps `k` to `v`; a key that is there keeps its place. -/
def insert (d : Dict κ α) (k : κ) (v : α) : Dict κ α :=
  ⟨upsert d.entries k v, nodup_upsert k v d.distinct⟩

/-- The pairs written from the left, so the last value of a key wins and its first place stays. -/
def ofList (pairs : List (κ × α)) : Dict κ α := pairs.foldl (fun d p => d.insert p.1 p.2) empty

@[grind =] theorem keys_insert (d : Dict κ α) (k : κ) (v : α) :
    (d.insert k v).keys = if k ∈ d.keys then d.keys else d.keys ++ [k] :=
  map_fst_upsert d.entries k v

@[simp, grind =] theorem get?_insert (d : Dict κ α) (k j : κ) (v : α) :
    (d.insert k v).get? j = if j = k then some v else d.get? j :=
  lookup_upsert d.entries k v j

@[simp, grind =] theorem get?_filter (p : κ → Bool) (d : Dict κ α) (k : κ) :
    (d.filter p).get? k = if p k then d.get? k else none := by
  unfold get? filter
  simp only
  induction d.entries with
  | nil => simp
  | cons e rest ih =>
    obtain ⟨a, v⟩ := e
    by_cases hk : k = a
    · subst hk
      cases hp : p k <;> simp [hp, ih]
    · have hne : (k == a) = false := by simpa using hk
      cases hp : p a <;> simp [hp, List.lookup_cons, hne, ih]

/-- Of several pairs with one key the last one counts. -/
theorem get?_ofList (pairs : List (κ × α)) (k : κ) :
    (ofList pairs).get? k = pairs.reverse.lookup k := by
  suffices h : ∀ d : Dict κ α, (pairs.foldl (fun d p => d.insert p.1 p.2) d).get? k =
      (pairs.reverse.lookup k).or (d.get? k) by
    simpa [ofList, get?, empty] using h empty
  induction pairs with
  | nil => intro d; rfl
  | cons p rest ih =>
    intro d
    obtain ⟨a, v⟩ := p
    rw [List.foldl_cons, ih, get?_insert, List.reverse_cons, List.lookup_append, Option.or_assoc]
    by_cases h : k = a
    · simp [h]
    · have hne : (k == a) = false := by simpa using h
      simp [h, List.lookup_cons, hne]

theorem get?_ofList_append {before after : List (κ × α)} {k : κ} {v : α}
    (h : ∀ p ∈ after, p.1 ≠ k) : (ofList (before ++ (k, v) :: after)).get? k = some v := by
  rw [get?_ofList, List.lookup_eq_some_iff]
  refine ⟨after.reverse, before.reverse, by simp, fun p hp => ?_⟩
  simpa using (h p (List.mem_reverse.mp hp)).symm

@[simp] theorem isSome_get?_ofList {pairs : List (κ × α)} {k : κ} :
    ((ofList pairs).get? k).isSome ↔ k ∈ pairs.map Prod.fst := by
  rw [get?_ofList, List.lookup_isSome_iff]
  constructor
  · rintro ⟨p, hp, hk⟩
    exact List.mem_map.mpr ⟨p, List.mem_reverse.mp hp, (beq_iff_eq.mp hk).symm⟩
  · intro h
    obtain ⟨p, hp, rfl⟩ := List.mem_map.mp h
    exact ⟨p, List.mem_reverse.mpr hp, beq_self_eq_true _⟩

/-- Whatever a key is mapped to was written. -/
theorem mem_of_get?_ofList {pairs : List (κ × α)} {k : κ} {v : α}
    (h : (ofList pairs).get? k = some v) : (k, v) ∈ pairs := by
  rw [get?_ofList, List.lookup_eq_some_iff] at h
  obtain ⟨before, after, heq, -⟩ := h
  exact List.mem_reverse.mp (heq ▸ List.mem_append_right _ List.mem_cons_self)

/-- Pairs with distinct keys are kept as they are. -/
theorem entries_ofList {pairs : List (κ × α)} (h : (pairs.map Prod.fst).Nodup) :
    (ofList pairs).entries = pairs := by
  suffices all : ∀ d : Dict κ α, ((d.entries ++ pairs).map Prod.fst).Nodup →
      (pairs.foldl (fun d p => d.insert p.1 p.2) d).entries = d.entries ++ pairs by
    simpa [ofList, empty] using all empty (by simpa [empty] using h)
  clear h
  induction pairs with
  | nil => simp
  | cons p rest ih =>
    intro d h
    have new : p.1 ∉ d.entries.map Prod.fst := by
      rw [List.map_append, List.nodup_append] at h
      exact fun hp => h.2.2 _ hp p.1 (by simp) rfl
    have entries : (d.insert p.1 p.2).entries = d.entries ++ [p] := upsert_of_notMem new p.2
    rw [List.foldl_cons, ih _ (by simpa [entries] using h), entries, List.append_assoc,
      List.singleton_append]

@[grind =] theorem mem_keys_iff {d : Dict κ α} {k : κ} : k ∈ d.keys ↔ (d.get? k).isSome := by
  rw [get?, List.lookup_isSome_iff, keys, List.mem_map]
  constructor
  · rintro ⟨p, hp, rfl⟩
    exact ⟨p, hp, beq_self_eq_true _⟩
  · rintro ⟨p, hp, hk⟩
    exact ⟨p, hp, (beq_iff_eq.mp hk).symm⟩

/-- A pair that is there is what its key is mapped to. -/
theorem get?_of_mem {d : Dict κ α} {k : κ} {v : α} (h : (k, v) ∈ d.entries) :
    d.get? k = some v := by
  obtain ⟨entries, distinct⟩ := d
  simp only [get?] at h ⊢
  induction entries with
  | nil => cases h
  | cons p rest ih =>
    obtain ⟨a, b⟩ := p
    simp only [List.map_cons, List.nodup_cons] at distinct
    rcases List.mem_cons.mp h with heq | hrest
    · cases heq
      simp
    · have hne : (k == a) = false := by
        simp only [beq_eq_false_iff_ne, ne_eq]
        rintro rfl
        exact distinct.1 (List.mem_map.mpr ⟨_, hrest, rfl⟩)
      simp [List.lookup_cons, hne, ih distinct.2 hrest]

end Dict

end LocaleGen
