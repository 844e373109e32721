import Mathlib

/-!
# Results of computations that may fail

When a computation that consists of others has a result: each of them has one. For a list of
computations that is a relation between two lists, place by place. When it fails, the first of them
that does has failed.
-/

namespace LocaleGen

variable {ε ε' α β γ : Type}

@[simp] theorem bind_eq_ok {x : Except ε α} {f : α → Except ε β} {b : β} :
    (x >>= f) = .ok b ↔ ∃ a, x = .ok a ∧ f a = .ok b := by
  cases x <;> simp [bind, Except.bind]

@[simp] theorem mapError_eq_ok {x : Except ε α} {f : ε → ε'} {a : α} :
    x.mapError f = .ok a ↔ x = .ok a := by
  cases x <;> simp [Except.mapError]

@[simp] theorem ok_bind (a : α) (f : α → Except ε β) : (Except.ok a >>= f) = f a := rfl

@[simp] theorem bind_eq_error {x : Except ε α} {f : α → Except ε β} {e : ε} :
    (x >>= f) = .error e ↔ x = .error e ∨ ∃ a, x = .ok a ∧ f a = .error e := by
  cases x <;> simp [bind, Except.bind]

@[simp] theorem mapError_eq_error {x : Except ε α} {f : ε → ε'} {e : ε'} :
    x.mapError f = .error e ↔ ∃ e', x = .error e' ∧ f e' = e := by
  cases x <;> simp [Except.mapError]

theorem isOk_eq_true {x : Except ε α} : x.isOk = true ↔ ∃ a, x = .ok a := by
  cases x <;> simp [Except.isOk, Except.toBool]

@[simp] theorem toOption_eq_some {x : Except ε α} {a : α} : x.toOption = some a ↔ x = .ok a := by
  cases x <;> simp [Except.toOption]

theorem mapM_eq_ok {f : α → Except ε β} {as : List α} {bs : List β} :
    as.mapM f = .ok bs ↔ List.Forall₂ (fun a b => f a = .ok b) as bs := by
  induction as generalizing bs with
  | nil => simp [pure, Except.pure, eq_comm]
  | cons a as ih =>
    simp only [List.mapM_cons, bind_eq_ok, ih, List.forall₂_cons_left_iff, pure, Except.pure,
      Except.ok.injEq]
    constructor
    · rintro ⟨b, hb, bs, hbs, rfl⟩
      exact ⟨b, bs, hb, hbs, rfl⟩
    · rintro ⟨b, bs, hb, hbs, rfl⟩
      exact ⟨b, hb, bs, hbs, rfl⟩

theorem exists_of_mapM_eq_error {f : α → Except ε β} {as : List α} {e : ε}
    (h : as.mapM f = .error e) : ∃ a ∈ as, f a = .error e := by
  induction as with
  | nil => cases h
  | cons a as ih =>
    rw [List.mapM_cons, bind_eq_error] at h
    rcases h with hfirst | ⟨b, -, h⟩
    · exact ⟨a, List.mem_cons_self, hfirst⟩
    · rcases bind_eq_error.mp h with hrest | ⟨bs, -, h⟩
      · obtain ⟨a', ha', hfails⟩ := ih hrest
        exact ⟨a', List.mem_cons_of_mem _ ha', hfails⟩
      · cases h

theorem filterAuxM_eq_ok {p : α → Except ε Bool} {as acc bs : List α}
    (h : List.filterAuxM p as acc = .ok bs) :
    ∃ kept : List α, bs = kept.reverse ++ acc ∧ kept.Sublist as ∧ (∀ a ∈ kept, p a = .ok true) ∧
      ∀ a ∈ as, a ∉ kept → p a = .ok false := by
  induction as generalizing acc with
  | nil =>
    cases h
    exact ⟨[], rfl, .refl _, by simp, by simp⟩
  | cons a as ih =>
    obtain ⟨b, hb, h⟩ := bind_eq_ok.mp h
    obtain ⟨kept, rfl, hsub, hkept, hleft⟩ := ih h
    cases b with
    | true =>
      refine ⟨a :: kept, by simp, hsub.cons_cons a, List.forall_mem_cons.mpr ⟨hb, hkept⟩,
        fun c hc hnot => ?_⟩
      rw [List.mem_cons, not_or] at hnot
      exact hleft c ((List.mem_cons.mp hc).resolve_left hnot.1) hnot.2
    | false => exact ⟨kept, rfl, hsub.cons a, hkept, List.forall_mem_cons.mpr ⟨fun _ => hb, hleft⟩⟩

/-- A test that may fail has been put to every member of the list. -/
theorem filterM_eq_ok {p : α → Except ε Bool} {as bs : List α} (h : as.filterM p = .ok bs) :
    bs.Sublist as ∧ (∀ b ∈ bs, p b = .ok true) ∧ ∀ a ∈ as, a ∉ bs → p a = .ok false := by
  obtain ⟨found, hfound, h⟩ := bind_eq_ok.mp h
  obtain ⟨kept, rfl, rest⟩ := filterAuxM_eq_ok hfound
  cases h
  simpa using rest

theorem filterAuxM_eq_error_iff {p : α → Except ε Bool} {as acc : List α} {e : ε} :
    List.filterAuxM p as acc = .error e ↔
      ∃ before a after, as = before ++ a :: after ∧ (∀ b ∈ before, ∃ r, p b = .ok r) ∧
      p a = .error e := by
  induction as generalizing acc with
  | nil => simp [List.filterAuxM, pure, Except.pure]
  | cons first rest ih =>
    rw [List.filterAuxM, bind_eq_error]
    constructor
    · rintro (hfirst | ⟨r, hr, h⟩)
      · exact ⟨[], first, rest, rfl, by simp, hfirst⟩
      · obtain ⟨before, a, after, rfl, passed, hfails⟩ := ih.mp h
        exact ⟨first :: before, a, after, rfl, List.forall_mem_cons.mpr ⟨⟨r, hr⟩, passed⟩, hfails⟩
    · rintro ⟨before, a, after, heq, passed, hfails⟩
      cases before with
      | nil =>
        cases heq
        exact .inl hfails
      | cons b before =>
        cases heq
        obtain ⟨⟨r, hr⟩, passed⟩ := List.forall_mem_cons.mp passed
        exact .inr ⟨r, hr, ih.mpr ⟨before, a, after, rfl, passed, hfails⟩⟩

/-- A test that fails has failed on a member of the list, after all members before it. -/
theorem filterM_eq_error_iff {p : α → Except ε Bool} {as : List α} {e : ε} :
    as.filterM p = .error e ↔
      ∃ before a after, as = before ++ a :: after ∧ (∀ b ∈ before, ∃ r, p b = .ok r) ∧
      p a = .error e := by
  rw [List.filterM, bind_eq_error, filterAuxM_eq_error_iff]
  simp [pure, Except.pure]

/-! ## Lists place by place -/

theorem exists_of_mem_left {R : α → β → Prop} {as : List α} {bs : List β}
    (h : List.Forall₂ R as bs) {a : α} (ha : a ∈ as) : ∃ b ∈ bs, R a b := by
  induction h with
  | nil => cases ha
  | cons hab _ ih =>
    rcases List.mem_cons.mp ha with rfl | ha
    · exact ⟨_, List.mem_cons_self, hab⟩
    · obtain ⟨b, hb, hab⟩ := ih ha
      exact ⟨b, List.mem_cons_of_mem _ hb, hab⟩

/-- Two lists that are related through a third one. -/
theorem forall₂_exists {R : α → β → Prop} {S : α → γ → Prop} {T : β → γ → Prop}
    {as : List α} {bs : List β} (hR : ∀ a b, R a b → ∃ c, S a c ∧ T b c)
    (h : List.Forall₂ R as bs) : ∃ cs, List.Forall₂ S as cs ∧ List.Forall₂ T bs cs := by
  induction h with
  | nil => exact ⟨[], .nil, .nil⟩
  | cons hab _ ih =>
    obtain ⟨c, hac, hbc⟩ := hR _ _ hab
    obtain ⟨cs, has, hbs⟩ := ih
    exact ⟨c :: cs, .cons hac has, .cons hbc hbs⟩

theorem filterMap_eq_of_forall₂ {f : α → Option β} {as : List α} {bs : List β}
    (h : List.Forall₂ (fun a b => f a = some b) as bs) : as.filterMap f = bs := by
  induction h with
  | nil => rfl
  | cons hab _ ih => rw [List.filterMap_cons_some hab, ih]

/-- What holds of the member that is set and of the others holds of all. -/
theorem forall_set {P : ℕ → α → Prop} {as : List α} {n : ℕ} {a : α} (own : P n a)
    (others : ∀ m ≠ n, ∀ b, as[m]? = some b → P m b) {m : ℕ} {b : α}
    (h : (as.set n a)[m]? = some b) : P m b := by
  by_cases hm : m = n
  · subst hm
    obtain ⟨hbound, -⟩ := List.getElem?_eq_some_iff.mp h
    rw [List.getElem?_set_self (by simpa using hbound)] at h
    cases h
    exact own
  · rw [List.getElem?_set_ne (Ne.symm hm)] at h
    exact others m hm b h

end LocaleGen
