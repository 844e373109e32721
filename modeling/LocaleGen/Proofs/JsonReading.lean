import LocaleGen.Proofs.JsonGrammar
import Mathlib

/-!
# What is read as JSON

The reader accepts the texts that the grammar has, within two limits (`Json.Fits`), and of repeated
names it keeps the last value in the first place (`Json.settle`): `Json.read_eq_ok_iff`. One step of
the reader is sound if the steps that it makes are (`Json.Sound.step`), and each part of a text is
read as what the grammar says of it (`Json.Spells.reads`).

All other texts are refused for their form, unless a limit is reached first:
`Json.isTooLarge_of_read`.

So what is written is read back, if it is not nested too deeply (`Json.read_write`), and no value
that is read is nested deeper than that (`Json.nesting_le_of_read`).
-/

namespace LocaleGen

namespace Json

/-! ## Repeated names -/

mutual

/-- A value whose objects have each name once, in its first place and with its last value. -/
def settle (v : Json) : Json :=
  match v with
  | list items => .list (settleItems items)
  | object members => .object (Dict.ofList (settleMembers members)).entries
  | v => v

def settleItems (items : List Json) : List Json :=
  match items with
  | [] => []
  | v :: rest => settle v :: settleItems rest

def settleMembers (members : List (Text × Json)) : List (Text × Json) :=
  match members with
  | [] => []
  | (name, v) :: rest => (name, settle v) :: settleMembers rest

end

@[simp] theorem settleItems_eq (items : List Json) : settleItems items = items.map settle := by
  induction items with
  | nil => rfl
  | cons v items ih => rw [settleItems, ih, List.map_cons]

@[simp] theorem settleMembers_eq (members : List (Text × Json)) :
    settleMembers members = members.map fun m => (m.1, m.2.settle) := by
  induction members with
  | nil => rfl
  | cons m members ih => rw [settleMembers, ih, List.map_cons]

theorem settle_list {items : List Json} (hitems : ∀ v ∈ items, v.settle = v) :
    (list items).settle = .list items := by
  rw [settle, settleItems_eq, List.map_congr_left hitems]
  exact congrArg list (List.map_id items)

/-- Where no name is repeated nothing is lost. -/
theorem settle_object {members : List (Text × Json)} (hnames : (members.map Prod.fst).Nodup)
    (hmembers : ∀ m ∈ members, m.2.settle = m.2) : (object members).settle = .object members := by
  have hmap : members.map (fun m => (m.1, m.2.settle)) = members := by
    refine (List.map_congr_left fun m hm => ?_).trans (List.map_id members)
    rw [hmembers m hm]
    rfl
  rw [settle, settleMembers_eq, hmap, Dict.entries_ofList hnames]

theorem IsData.settle_eq {v : Json} (hv : v.IsData) : v.settle = v := by
  induction hv with
  | null | bool | int | text => rfl
  | list _ ih => exact settle_list ih
  | object hnodup _ _ ih => exact settle_object hnodup ih

/-! ## Limits -/

/-- No more than so many lists and objects are open at once, and no integer has more digits than are
read. -/
inductive Fits : Nat → Json → Prop
  | null {depth : Nat} : Fits depth .null
  | bool {depth : Nat} (b : Bool) : Fits depth (.bool b)
  | int {depth : Nat} {i : Int} : (Text.ofNat i.natAbs).length ≤ digitLimit → Fits depth (.int i)
  | float {depth : Nat} (x : Binary64) : Fits depth (.float x)
  | text {depth : Nat} (t : Text) : Fits depth (.text t)
  | list {depth : Nat} {items : List Json} :
      (∀ v ∈ items, Fits depth v) → Fits (depth + 1) (.list items)
  | object {depth : Nat} {members : List (Text × Json)} :
      (∀ m ∈ members, Fits depth m.2) → Fits (depth + 1) (.object members)

/-- What is expected at a place in a JSON text. -/
inductive Spot where
  | value
  | items
  | members

/-- A limit is reached, after what has the form of JSON up to there. -/
inductive Exceeds : Nat → Spot → Text → Prop
  | list (rest : Text) : Exceeds 0 .value ("[" ++ rest)
  | object (rest : Text) : Exceeds 0 .value (r"{" ++ rest)
  | digits {depth n : Nat} (negative : Bool) {rest : Text} :
      digitLimit < (Text.ofNat n).length → EndsDigits rest →
      ¬ Continues rest → Exceeds depth .value (sign negative ++ Text.ofNat n ++ rest)
  | inList {depth : Nat} {blank t : Text} :
      Blank blank → Exceeds depth .items t → Exceeds (depth + 1) .value ("[" ++ blank ++ t)
  | inObject {depth : Nat} {blank t : Text} : Blank blank → Exceeds depth .members t →
      Exceeds (depth + 1) .value (r"{" ++ blank ++ t)
  | item {depth : Nat} {t : Text} : Exceeds depth .value t → Exceeds depth .items t
  | laterItem {depth : Nat} {src blank t : Text} {v : Json} :
      Spells src (.element v) → Blank blank → Exceeds depth .items t →
      Exceeds depth .items (src ++ "," ++ blank ++ t)
  | member {depth : Nat} {start name blank t : Text} :
      IsName start name → Blank blank → Exceeds depth .value t →
      Exceeds depth .members (start ++ blank ++ t)
  | laterMember {depth : Nat} {start name src blank t : Text} {v : Json} :
      IsName start name → Spells src (.element v) →
      Blank blank → Exceeds depth .members t →
        Exceeds depth .members (start ++ src ++ "," ++ blank ++ t)

variable {fuel depth : Nat} {c : CodePoint} {t src opened tail left rest : Text}
    {v : Json} {part : Part}

/-! ## What is accepted -/

def Stop.IsLimit (e : Stop) : Prop := ∀ problem left, e ≠ .malformed problem left

theorem not_isLimit_malformed (problem : Problem) (left : Nat) :
    ¬ (Stop.malformed problem left).IsLimit := fun h => h _ _ rfl

def ReadsValue (depth : Nat) (t : Text) (result : Except Stop (Json × Text)) : Prop :=
  match result with
  | .ok (v, rest) =>
    ∃ src raw, t = src ++ rest ∧ Spells src (.value raw) ∧ Fits depth raw ∧ v = raw.settle
  | .error e => e.IsLimit → Exceeds depth .value t

def ReadsItems (depth : Nat) (t : Text) (result : Except Stop (List Json × Text)) : Prop :=
  match result with
  | .ok (vs, rest) =>
    ∃ src raws, t = src ++ CodePoint.ofChar ']' :: rest ∧ Spells src (.items raws) ∧
      (∀ v ∈ raws, Fits depth v) ∧ vs = settleItems raws
  | .error e => e.IsLimit → Exceeds depth .items t

def ReadsMembers (depth : Nat) (t : Text) (result : Except Stop (List (Text × Json) × Text)) :
    Prop :=
  match result with
  | .ok (ms, rest) =>
    ∃ src raws, t = src ++ CodePoint.ofChar '}' :: rest ∧ Spells src (.members raws) ∧
      (∀ m ∈ raws, Fits depth m.2) ∧ ms = settleMembers raws
  | .error e => e.IsLimit → Exceeds depth .members t

/-- All that is read with so many nested calls is what the grammar says. -/
structure Sound (fuel : Nat) : Prop where
  value : ∀ depth t, ReadsValue depth t (readValue fuel depth t)
  items : ∀ depth t, ReadsItems depth t (readItems fuel depth t)
  members : ∀ depth t, ReadsMembers depth t (readMembers fuel depth t)

theorem exists_blank (t : Text) : ∃ blank, Blank blank ∧ t = blank ++ skipSpace t :=
  ⟨t.takeWhile isSpace, fun _ hc => List.mem_takeWhile_imp hc, List.takeWhile_append_dropWhile.symm⟩

/-! ### Scalars -/

theorem dropStart?_eq_some {start : Text} (h : t.dropStart? start = some rest) :
    t = start ++ rest := by
  induction start generalizing t with
  | nil =>
    rw [Text.dropStart?] at h
    exact Option.some.inj h
  | cons c start ih =>
    cases t with
    | nil => cases h
    | cons d t =>
      rw [Text.dropStart?] at h
      split at h
      · next heq => rw [heq, ih h, List.cons_append]
      · cases h

theorem readConstant_eq_some {words : List (Text × Json)}
    (h : readConstant t words = some (v, rest)) : ∃ word, (word, v) ∈ words ∧ t = word ++ rest := by
  induction words with
  | nil => cases h
  | cons w words ih =>
    rw [readConstant] at h
    split at h
    · next hword =>
      cases h
      exact ⟨_, List.mem_cons_self, dropStart?_eq_some hword⟩
    · obtain ⟨word, hmem, happend⟩ := ih h
      exact ⟨word, List.mem_cons_of_mem _ hmem, happend⟩

theorem not_isLimit_readUnit {e : Stop} (h : readUnit t = .error e) : ¬ e.IsLimit := by
  unfold readUnit at h
  split at h
  · split at h <;> cases h
    exact not_isLimit_malformed _ _
  · cases h
    exact not_isLimit_malformed _ _

theorem not_isLimit_readUnicodeEscape {e : Stop} (h : readUnicodeEscape t = .error e) :
    ¬ e.IsLimit := by
  rcases bind_eq_error.mp h with h | ⟨⟨high, rest⟩, -, h⟩
  · exact not_isLimit_readUnit h
  · dsimp only at h
    split at h
    · split at h
      · split at h
        · rcases bind_eq_error.mp h with h | ⟨⟨low, rest⟩, -, h⟩
          · exact not_isLimit_readUnit h
          · dsimp only at h
            split at h <;> cases h
        · cases h
      · cases h
    · cases h

/-- A text in quotes is refused for its form only. -/
theorem not_isLimit_readString {e : Stop} (h : readString fuel opened t = .error e) :
    ¬ e.IsLimit := by
  induction fuel generalizing t e with
  | zero =>
    cases h
    exact not_isLimit_malformed _ _
  | succ fuel ih =>
    have more {c : CodePoint} {left : Text} (h : (readString fuel opened left >>= fun found =>
        Except.ok (c :: found.1, found.2)) = .error e) : ¬ e.IsLimit := by
      rcases bind_eq_error.mp h with h | ⟨found, -, h⟩
      · exact ih h
      · cases h
    unfold readString at h
    split at h
    · cases h
      exact not_isLimit_malformed _ _
    · split_ifs at h
      · split at h
        · cases h
          exact not_isLimit_malformed _ _
        · split_ifs at h
          · rcases bind_eq_error.mp h with h | ⟨⟨c, left⟩, -, h⟩
            · exact not_isLimit_readUnicodeEscape h
            · exact more h
          · split at h
            · cases h
              exact not_isLimit_malformed _ _
            · exact more h
      · cases h
        exact not_isLimit_malformed _ _
      · exact more h

theorem fits_of_constants {word : Text} (h : (word, v) ∈ constants) (depth : Nat) :
    Fits depth v ∧ v = v.settle := by
  simp only [constants, List.mem_cons, List.not_mem_nil, or_false, Prod.mk.injEq] at h
  rcases h with ⟨-, rfl⟩ | ⟨-, rfl⟩ | ⟨-, rfl⟩ | ⟨-, rfl⟩ | ⟨-, rfl⟩ | ⟨-, rfl⟩
  · exact ⟨.null, rfl⟩
  · exact ⟨.bool true, rfl⟩
  · exact ⟨.bool false, rfl⟩
  · exact ⟨.float _, rfl⟩
  · exact ⟨.float _, rfl⟩
  · exact ⟨.float _, rfl⟩

theorem IsNumber.fits (h : IsNumber src v)
    (hlimit : ∀ i, v = .int i → (Text.ofNat i.natAbs).length ≤ digitLimit) (depth : Nat) :
    Fits depth v ∧ v = v.settle := by
  cases h with
  | int => exact ⟨.int (hlimit _ rfl), rfl⟩
  | float => exact ⟨.float _, rfl⟩

theorem readsValue_magnitude (depth : Nat) (negative : Bool) (start t : Text) :
    ReadsValue depth (sign negative ++ t) (readMagnitude negative start t) := by
  cases hread : readMagnitude negative start t with
  | ok found =>
    obtain ⟨v, rest⟩ := found
    obtain ⟨digits, rfl, hnumber, hlimit⟩ := isNumber_of_readMagnitude hread
    exact ⟨sign negative ++ digits, v, (List.append_assoc _ _ _).symm, .number hnumber,
      hnumber.fits hlimit depth⟩
  | error e =>
    intro limit
    obtain ⟨n, rest, rfl, hlimit, hends, hnot⟩ := tooManyDigits_of_readMagnitude hread limit
    rw [← List.append_assoc]
    exact .digits negative hlimit hends hnot

theorem readsValue_scalar (fuel depth : Nat) (t : Text) :
    ReadsValue depth t (readScalar fuel t) := by
  unfold readScalar
  split
  · exact fun limit => absurd limit (not_isLimit_malformed _ _)
  · next c rest =>
    split
    · next hquote =>
      obtain rfl := hquote
      cases hread : readString fuel (CodePoint.ofChar '"' :: rest) rest with
      | ok found =>
        obtain ⟨s, left⟩ := found
        obtain ⟨src, rfl, hquotes⟩ := quotes_of_readString hread
        exact ⟨_, _, by simp; rfl, .text hquotes, .text s, rfl⟩
      | error e => exact fun limit => absurd limit (not_isLimit_readString hread)
    · split
      · next found hconstant =>
        obtain ⟨v, rest⟩ := found
        obtain ⟨word, hmem, happend⟩ := readConstant_eq_some hconstant
        exact ⟨word, v, happend, .word hmem, fits_of_constants hmem depth⟩
      · split
        · next hminus =>
          obtain rfl := hminus
          exact readsValue_magnitude depth true _ rest
        · exact readsValue_magnitude depth false _ (c :: rest)

/-! ### Values -/

section

variable (items : ∀ depth t, ReadsItems depth t (readItems fuel depth t))
  (members : ∀ depth t, ReadsMembers depth t (readMembers fuel depth t))

include items in
theorem readsValue_bracket (depth : Nat) (rest : Text) :
    ReadsValue depth (CodePoint.ofChar '[' :: rest)
    (readValue (fuel + 1) depth (CodePoint.ofChar '[' :: rest)) := by
  cases depth with
  | zero => exact fun _ => .list rest
  | succ depth =>
    obtain ⟨blank, hblank, happend⟩ := exists_blank rest
    rw [readValue, if_pos rfl]
    split
    · exact fun limit => absurd limit (not_isLimit_malformed _ _)
    · next d rest' hskip =>
      rw [hskip] at happend
      split
      · next hclose =>
        rw [happend, hclose]
        exact ⟨_, _, by simp; rfl, .emptyList hblank, .list (List.forall_mem_nil _), rfl⟩
      · have hitems := items depth (d :: rest')
        rw [happend]
        cases hread : readItems fuel depth (d :: rest') with
        | ok found =>
          rw [hread] at hitems
          obtain ⟨src, raws, heq, hsrc, hfits, hsettle⟩ := hitems
          refine ⟨_, _, by rw [heq]; simp; rfl,
            .list (hsrc.blank_append hblank (Part.items_ne_value raws)), .list hfits, ?_⟩
          rw [settle, ← hsettle]
        | error e =>
          rw [hread] at hitems
          exact fun limit => .inList hblank (hitems limit)

include members in
theorem readsValue_brace (depth : Nat) (rest : Text) :
    ReadsValue depth (CodePoint.ofChar '{' :: rest)
    (readValue (fuel + 1) depth (CodePoint.ofChar '{' :: rest)) := by
  have hlist : ¬ CodePoint.ofChar '{' = CodePoint.ofChar '[' := by decide
  cases depth with
  | zero => exact fun _ => .object rest
  | succ depth =>
    obtain ⟨blank, hblank, happend⟩ := exists_blank rest
    rw [readValue, if_neg hlist, if_pos rfl]
    split
    · exact fun limit => absurd limit (not_isLimit_malformed _ _)
    · next d rest' hskip =>
      rw [hskip] at happend
      split
      · next hclose =>
        rw [happend, hclose]
        exact ⟨_, _, by simp; rfl, .emptyObject hblank, .object (List.forall_mem_nil _), rfl⟩
      · have hmembers := members depth (d :: rest')
        rw [happend]
        cases hread : readMembers fuel depth (d :: rest') with
        | ok found =>
          rw [hread] at hmembers
          obtain ⟨src, raws, heq, hsrc, hfits, hsettle⟩ := hmembers
          refine ⟨_, _, by rw [heq]; simp; rfl,
            .object (hsrc.blank_append hblank (Part.members_ne_value raws)), .object hfits, ?_⟩
          rw [settle, ← hsettle]
        | error e =>
          rw [hread] at hmembers
          exact fun limit => .inObject hblank (hmembers limit)

include items members in
/-- A value is read soundly if what stands inside its brackets or braces is. -/
theorem readsValue_step (depth : Nat) (t : Text) :
    ReadsValue depth t (readValue (fuel + 1) depth t) := by
  cases t with
  | nil =>
    rw [readValue]
    exact fun limit => absurd limit (not_isLimit_malformed _ _)
  | cons c rest =>
    by_cases hlist : c = '['
    · rw [hlist]
      exact readsValue_bracket items depth rest
    · by_cases hobject : c = '{'
      · rw [hobject]
        exact readsValue_brace members depth rest
      · rw [readValue_scalar hlist hobject]
        exact readsValue_scalar fuel depth (c :: rest)

end

@[simp] theorem comma_append (t : Text) : Text.ofString "," ++ t = CodePoint.ofChar ',' :: t := rfl

/-- A value that has been read, together with the white space on both sides of it. -/
theorem ReadsValue.element {before : Text} (h : ReadsValue depth t (.ok (v, left)))
    (hbefore : Blank before) :
    ∃ src raw, before ++ t = src ++ skipSpace left ∧ Spells src (.element raw) ∧ Fits depth raw ∧
    v = raw.settle := by
  obtain ⟨src, raw, rfl, hsrc, hfits, hsettle⟩ := h
  obtain ⟨blank, hblank, happend⟩ := exists_blank left
  refine ⟨before ++ src ++ blank, raw, ?_, .element hbefore hsrc hblank, hfits, hsettle⟩
  rw [List.append_assoc (before ++ src), ← happend, List.append_assoc]

/-- The items behind a comma, together with the one in front of it. -/
theorem ReadsItems.more {result : Except Stop (List Json × Text)} (hitem : Spells src (.element v))
    (hfits : Fits depth v) (h : ReadsItems depth (skipSpace rest) result) :
    ReadsItems depth (src ++ CodePoint.ofChar ',' :: rest)
    (result.map fun found => (v.settle :: found.1, found.2)) := by
  obtain ⟨blank, hblank, happend⟩ := exists_blank rest
  generalize skipSpace rest = more at happend h
  subst happend
  cases result with
  | ok found =>
    obtain ⟨src', raws, rfl, hsrc, hfits', hsettle⟩ := h
    have hmore := Spells.moreItems hitem (hsrc.blank_append hblank (Part.items_ne_value raws))
    exact ⟨_, _, by simp, hmore, List.forall_mem_cons.mpr ⟨hfits, hfits'⟩,
      congrArg (v.settle :: ·) hsettle⟩
  | error e =>
    intro limit
    have hlater := Exceeds.laterItem hitem hblank (h limit)
    simpa using hlater

theorem readsItems_step (value : ∀ depth t, ReadsValue depth t (readValue fuel depth t))
    (items : ∀ depth t, ReadsItems depth t (readItems fuel depth t)) (depth : Nat) (t : Text) :
    ReadsItems depth t (readItems (fuel + 1) depth t) := by
  have hvalue := value depth t
  cases hread : readValue fuel depth t with
  | error e =>
    rw [hread] at hvalue
    rw [readItems, hread]
    exact fun limit => .item (hvalue limit)
  | ok found =>
    obtain ⟨v, left⟩ := found
    rw [hread] at hvalue
    obtain ⟨src, raw, happend, hitem, hfits, rfl⟩ := hvalue.element (List.forall_mem_nil _)
    rw [List.nil_append] at happend
    rcases readItems_cases hread with ⟨rest, hskip, hlast⟩ | ⟨rest, hskip, hmore⟩ | ⟨problem,
      place, hform⟩
    · rw [hlast, happend, hskip]
      exact ⟨src, [raw], rfl, .lastItem hitem, List.forall_mem_singleton.mpr hfits, rfl⟩
    · rw [hmore, happend, hskip]
      exact (items depth (skipSpace rest)).more hitem hfits
    · rw [hform]
      exact fun limit => absurd limit (not_isLimit_malformed _ _)

theorem isName_of_readName {name : Text} (h : readName fuel t = .ok (name, left)) :
    ∃ start blank, t = start ++ (blank ++ left) ∧ IsName start name ∧ Blank blank := by
  unfold readName at h
  split at h
  · next c rest =>
    split at h
    · next hquote =>
      obtain ⟨⟨s, left'⟩, hread, hrest⟩ := bind_eq_ok.mp h
      clear h
      obtain ⟨src, rfl, hquotes⟩ := quotes_of_readString hread
      obtain ⟨after, hafter, happend⟩ := exists_blank left'
      dsimp only at hrest
      split at hrest
      · next d left'' hskip =>
        split at hrest
        · next hcolon =>
          obtain ⟨rfl, rfl⟩ := Prod.mk.inj (Except.ok.inj hrest)
          obtain ⟨blank, hblank, happend'⟩ := exists_blank left''
          rw [hskip, hcolon] at happend
          refine ⟨_, blank, ?_, ⟨[], src, after, rfl, List.forall_mem_nil _, hquotes, hafter⟩,
            hblank⟩
          rw [← happend', hquote, happend]
          simp
          rfl
        · cases hrest
      · cases hrest
    · cases h
  · cases h

theorem not_isLimit_readName {e : Stop} (h : readName fuel t = .error e) : ¬ e.IsLimit := by
  unfold readName at h
  split at h
  · split at h
    · rcases bind_eq_error.mp h with h | ⟨⟨s, left⟩, -, h⟩
      · exact not_isLimit_readString h
      · dsimp only at h
        split at h
        · split at h
          · cases h
          · cases h
            exact not_isLimit_malformed _ _
        · cases h
          exact not_isLimit_malformed _ _
    · cases h
      exact not_isLimit_malformed _ _
  · cases h
    exact not_isLimit_malformed _ _

/-- The members behind a comma, together with the one in front of it. -/
theorem ReadsMembers.more {start name : Text} {result : Except Stop (List (Text × Json) × Text)}
    (hname : IsName start name) (hitem : Spells src (.element v)) (hfits : Fits depth v)
    (h : ReadsMembers depth (skipSpace rest) result) :
    ReadsMembers depth (start ++ (src ++ CodePoint.ofChar ',' :: rest))
      (result.map fun found => ((name, v.settle) :: found.1, found.2)) := by
  obtain ⟨blank, hblank, happend⟩ := exists_blank rest
  generalize skipSpace rest = more at happend h
  subst happend
  cases result with
  | ok found =>
    obtain ⟨src', raws, rfl, hsrc, hfits', hsettle⟩ := h
    have hmore :=
      Spells.moreMembers hname hitem (hsrc.blank_append hblank (Part.members_ne_value raws))
    exact ⟨_, _, by simp, hmore, List.forall_mem_cons.mpr ⟨hfits, hfits'⟩,
      congrArg ((name, v.settle) :: ·) hsettle⟩
  | error e =>
    intro limit
    have hlater := Exceeds.laterMember hname hitem hblank (h limit)
    simpa using hlater

theorem readsMembers_step (value : ∀ depth t, ReadsValue depth t (readValue fuel depth t))
    (members : ∀ depth t, ReadsMembers depth t (readMembers fuel depth t))
    (depth : Nat) (t : Text) : ReadsMembers depth t (readMembers (fuel + 1) depth t) := by
  cases hname : readName fuel t with
  | error e =>
    rw [readMembers, hname]
    exact fun limit => absurd limit (not_isLimit_readName hname)
  | ok found =>
    obtain ⟨name, left⟩ := found
    obtain ⟨start, before, rfl, hstart, hbefore⟩ := isName_of_readName hname
    have hvalue := value depth left
    cases hread : readValue fuel depth left with
    | error e =>
      rw [hread] at hvalue
      rw [readMembers, hname]
      simp only [ok_bind, hread]
      intro limit
      rw [← List.append_assoc]
      exact .member hstart hbefore (hvalue limit)
    | ok found =>
      obtain ⟨v, left'⟩ := found
      rw [hread] at hvalue
      obtain ⟨src, raw, happend, hitem, hfits, rfl⟩ := hvalue.element hbefore
      rcases readMembers_cases hname hread with
        ⟨rest, hskip, hlast⟩ | ⟨rest, hskip, hmore⟩ | ⟨problem, place, hform⟩
      · rw [hlast, happend, hskip]
        exact ⟨start ++ src, [(name, raw)], by simp, .lastMember hstart hitem,
          List.forall_mem_singleton.mpr hfits, rfl⟩
      · rw [hmore, happend, hskip]
        exact (members depth (skipSpace rest)).more hstart hitem hfits
      · rw [hform]
        exact fun limit => absurd limit (not_isLimit_malformed _ _)

/-- One more nested call reads soundly what the calls inside it do. -/
theorem Sound.step (h : Sound fuel) : Sound (fuel + 1) where
  value := readsValue_step h.items h.members
  items := readsItems_step h.value h.items
  members := readsMembers_step h.value h.members

theorem sound (fuel : Nat) : Sound fuel := by
  induction fuel with
  | zero =>
    refine ⟨fun _ _ => ?_, fun _ _ => ?_, fun _ _ => ?_⟩ <;>
      exact fun limit => absurd limit (not_isLimit_malformed _ _)
  | succ fuel ih => exact ih.step

/-! ## What has the form is read -/

/-- What it means that a part of a text is read in front of whatever does not belong to it. -/
def Reads (src : Text) (part : Part) : Prop :=
  match part with
  | .value v => ∀ fuel depth rest, 2 * src.length ≤ fuel → Fits depth v → EndsNumber rest →
      readValue fuel depth (src ++ rest) = .ok (v.settle, rest)
  | .element v => ∀ fuel depth rest, 2 * src.length ≤ fuel → Fits depth v → EndsNumber rest →
      ∃ left, readValue fuel depth (skipSpace (src ++ rest)) = .ok (v.settle, left) ∧
        skipSpace left = skipSpace rest
  | .items vs => ∀ fuel depth rest, 2 * src.length + 1 ≤ fuel → (∀ v ∈ vs, Fits depth v) →
      readItems fuel depth (skipSpace (src ++ CodePoint.ofChar ']' :: rest)) =
        .ok (settleItems vs, rest)
  | .members ms => ∀ fuel depth rest, 2 * src.length + 1 ≤ fuel → (∀ m ∈ ms, Fits depth m.2) →
      readMembers fuel depth (skipSpace (src ++ CodePoint.ofChar '}' :: rest)) =
        .ok (settleMembers ms, rest)

theorem endsNumber_blank (hblank : Blank t) (h : EndsNumber rest) : EndsNumber (t ++ rest) := by
  cases t with
  | nil => exact h
  | cons c t =>
    have hspace := hblank c List.mem_cons_self
    refine endsNumber_cons ?_
    simp only [isSpace, Bool.or_eq_true, decide_eq_true_eq] at hspace
    rcases hspace with ((rfl | rfl) | rfl) | rfl <;> decide

/-- Between brackets and braces a value or a name starts behind white space at most. -/
theorem Spells.startsValue_skipSpace (h : Spells src part) (hpart : ∀ v, part ≠ .value v)
    (rest : Text) : StartsValue (skipSpace (src ++ rest)) := by
  have name {start name : Text} (h : IsName start name) (rest : Text) :
      StartsValue (skipSpace (start ++ rest)) := by
    obtain ⟨before, quoted, after, rfl, hbefore, -, -⟩ := h
    simp only [List.append_assoc]
    rw [skipSpace_append hbefore]
    exact ⟨_, _, rfl, by decide⟩
  induction h generalizing rest with
  | word | number | text | emptyList | list | emptyObject | object => exact absurd rfl (hpart _)
  | @element before src after v hbefore h hafter =>
    have hstarts := h.startsValue.append (after ++ rest)
    rw [List.append_assoc, List.append_assoc, skipSpace_append hbefore, hstarts.skipSpace]
    exact hstarts
  | lastItem h ih => exact ih (Part.element_ne_value _) rest
  | moreItems h hmore ih =>
    rw [List.append_assoc, List.append_assoc]
    exact ih (Part.element_ne_value _) _
  | lastMember hname h =>
    rw [List.append_assoc]
    exact name hname _
  | moreMembers hname h hmore =>
    rw [List.append_assoc, List.append_assoc, List.append_assoc]
    exact name hname _

theorem readName_of_isName {start name : Text} (h : IsName start name) (hfuel : start.length ≤ fuel)
    (rest : Text) : readName fuel (skipSpace (start ++ rest)) = .ok (name, skipSpace rest) := by
  obtain ⟨before, quoted, after, rfl, hbefore, hquotes, hafter⟩ := h
  simp only [List.length_append] at hfuel
  have hquote : (Text.ofString "\"").length = 1 := rfl
  simp only [List.append_assoc]
  rw [skipSpace_append hbefore]
  show readName fuel (CodePoint.ofChar '"' ::
    (quoted ++ CodePoint.ofChar '"' :: (after ++ CodePoint.ofChar ':' :: rest))) = _
  rw [readName, if_pos rfl, readString_of_quotes hquotes (by omega)]
  simp only [ok_bind, skipSpace_append hafter]
  rfl

/-- A value that starts neither with a bracket nor with a brace is read as a scalar. -/
theorem reads_scalar {more : Text} (hlist : c ≠ '[') (hobject : c ≠ '{')
    (hread : ∀ fuel depth rest, more.length < fuel →
    Fits depth v → EndsNumber rest → readScalar fuel (c :: more ++ rest) = .ok (v.settle, rest)) :
    Reads (c :: more) (.value v) := by
  intro fuel depth rest hfuel hfits hrest
  rw [List.length_cons] at hfuel
  obtain ⟨fuel, rfl⟩ : ∃ n, fuel = n + 1 := ⟨fuel - 1, by omega⟩
  have hscalar := hread fuel depth rest (by omega) hfits hrest
  rw [List.cons_append] at hscalar ⊢
  rw [readValue_scalar hlist hobject, hscalar]

theorem reads_word (h : (src, v) ∈ constants) : Reads src (.value v) := by
  obtain ⟨c, more, rfl, hquote, hlist, hobject⟩ : ∃ c more, src = c :: more ∧ c ≠ '"' ∧
      c ≠ '[' ∧ c ≠ '{' := by
    simp only [constants, List.mem_cons, List.not_mem_nil, or_false, Prod.mk.injEq] at h
    rcases h with ⟨rfl, -⟩ | ⟨rfl, -⟩ | ⟨rfl, -⟩ | ⟨rfl, -⟩ | ⟨rfl, -⟩ | ⟨rfl, -⟩ <;>
      exact ⟨_, _, rfl, by decide⟩
  refine reads_scalar hlist hobject fun fuel depth rest _ _ _ => ?_
  have hword : readConstant (c :: (more ++ rest)) constants = some (v, rest) := readConstant_word h
  rw [← (fits_of_constants h depth).2, List.cons_append, readScalar, if_neg hquote, hword]

theorem reads_number (h : IsNumber src v) : Reads src (.value v) := by
  obtain ⟨c, more, rfl, hc⟩ := h.exists_cons
  have hne : c ≠ '[' ∧ c ≠ '{' := by
    rcases hc with rfl | hdigit
    · decide
    · exact ⟨ne_of_isDigit hdigit (by decide), ne_of_isDigit hdigit (by decide)⟩
  refine reads_scalar hne.1 hne.2 fun fuel depth rest _ hfits hrest => ?_
  have hlimit : ∀ i, v = .int i → (Text.ofNat i.natAbs).length ≤ digitLimit := by
    rintro i rfl
    cases hfits
    assumption
  rw [← (h.fits hlimit depth).2]
  exact readScalar_of_isNumber h hlimit hrest

theorem reads_text (h : Quotes src t) : Reads ("\"" ++ src ++ "\"") (.value (.text t)) := by
  show Reads (CodePoint.ofChar '"' :: (src ++ [CodePoint.ofChar '"'])) _
  refine reads_scalar (by decide) (by decide) fun fuel depth rest hfuel _ _ => ?_
  rw [List.length_append, List.length_singleton] at hfuel
  have happend : CodePoint.ofChar '"' :: (src ++ [CodePoint.ofChar '"']) ++ rest =
      CodePoint.ofChar '"' :: (src ++ CodePoint.ofChar '"' :: rest) := by simp
  rw [happend, readScalar, if_pos rfl, readString_of_quotes h (by omega)]
  rfl

/-- A value in brackets or braces is read by what is read behind the first of them. -/
theorem reads_container {first last : CodePoint}
    (hread : ∀ fuel depth rest, 2 * src.length + 1 ≤ fuel → Fits depth v →
      readValue (fuel + 1) depth (first :: (src ++ last :: rest)) = .ok (v.settle, rest)) :
    Reads (first :: (src ++ [last])) (.value v) := by
  intro fuel depth rest hfuel hfits hrest
  simp only [List.length_cons, List.length_append, List.length_nil] at hfuel
  obtain ⟨fuel, rfl⟩ : ∃ n, fuel = n + 1 := ⟨fuel - 1, by omega⟩
  have happend : first :: (src ++ [last]) ++ rest = first :: (src ++ last :: rest) := by simp
  rw [happend]
  exact hread fuel depth rest (by omega) hfits

theorem reads_emptyList (h : Blank src) : Reads ("[" ++ src ++ "]") (.value (.list [])) := by
  show Reads (CodePoint.ofChar '[' :: (src ++ [CodePoint.ofChar ']'])) _
  refine reads_container fun fuel depth rest _ hfits => ?_
  cases hfits
  exact readValue_emptyList (skipSpace_append h _)

theorem reads_list {vs : List Json} (h : Spells src (.items vs)) (items : Reads src (.items vs)) :
    Reads ("[" ++ src ++ "]") (.value (.list vs)) := by
  show Reads (CodePoint.ofChar '[' :: (src ++ [CodePoint.ofChar ']'])) _
  refine reads_container fun fuel depth rest hfuel hfits => ?_
  cases hfits with
  | list hfits =>
    rw [readValue_list rfl (h.startsValue_skipSpace (Part.items_ne_value vs) _),
      items fuel _ rest hfuel hfits]
    rfl

theorem reads_emptyObject (h : Blank src) : Reads (r"{" ++ src ++ r"}") (.value (.object [])) := by
  show Reads (CodePoint.ofChar '{' :: (src ++ [CodePoint.ofChar '}'])) _
  refine reads_container fun fuel depth rest _ hfits => ?_
  cases hfits
  exact readValue_emptyObject (skipSpace_append h _)

theorem reads_object {ms : List (Text × Json)} (h : Spells src (.members ms))
    (members : Reads src (.members ms)) : Reads (r"{" ++ src ++ r"}") (.value (.object ms)) := by
  show Reads (CodePoint.ofChar '{' :: (src ++ [CodePoint.ofChar '}'])) _
  refine reads_container fun fuel depth rest hfuel hfits => ?_
  cases hfits with
  | object hfits =>
    rw [readValue_object rfl (h.startsValue_skipSpace (Part.members_ne_value ms) _),
      members fuel _ rest hfuel hfits]
    rfl

theorem reads_element {before after : Text} (hbefore : Blank before) (h : Spells src (.value v))
    (hafter : Blank after) (value : Reads src (.value v)) :
    Reads (before ++ src ++ after) (.element v) := by
  intro fuel depth rest hfuel hfits hrest
  simp only [List.length_append] at hfuel
  refine ⟨after ++ rest, ?_, skipSpace_append hafter rest⟩
  rw [List.append_assoc, List.append_assoc, skipSpace_append hbefore,
    (h.startsValue.append (after ++ rest)).skipSpace]
  exact value fuel depth _ (by omega) hfits (endsNumber_blank hafter hrest)

theorem reads_lastItem (element : Reads src (.element v)) : Reads src (.items [v]) := by
  intro fuel depth rest hfuel hfits
  obtain ⟨fuel, rfl⟩ : ∃ n, fuel = n + 1 := ⟨fuel - 1, by omega⟩
  obtain ⟨left, hread, hleft⟩ := element fuel depth (CodePoint.ofChar ']' :: rest) (by omega)
    (hfits v List.mem_cons_self) (endsNumber_cons (by decide))
  exact readItems_last hread hleft

theorem reads_moreItems {more : Text} {vs : List Json} (element : Reads src (.element v))
    (items : Reads more (.items vs)) : Reads (src ++ "," ++ more) (.items (v :: vs)) := by
  intro fuel depth rest hfuel hfits
  have happend : src ++ "," ++ more ++ CodePoint.ofChar ']' :: rest =
      src ++ CodePoint.ofChar ',' :: (more ++ CodePoint.ofChar ']' :: rest) := by
    simp
  rw [List.append_assoc, comma_append, List.length_append, List.length_cons] at hfuel
  obtain ⟨fuel, rfl⟩ : ∃ n, fuel = n + 1 := ⟨fuel - 1, by omega⟩
  obtain ⟨left, hread, hleft⟩ :=
    element fuel depth (CodePoint.ofChar ',' :: (more ++ CodePoint.ofChar ']' :: rest)) (by omega)
    (hfits v List.mem_cons_self) (endsNumber_cons (by decide))
  rw [happend, readItems_more hread hleft, items fuel depth rest (by omega)
    fun w hw => hfits w (List.mem_cons_of_mem _ hw)]
  rfl

theorem reads_lastMember {start name : Text} (hname : IsName start name)
    (element : Reads src (.element v)) : Reads (start ++ src) (.members [(name, v)]) := by
  intro fuel depth rest hfuel hfits
  rw [List.length_append] at hfuel
  obtain ⟨fuel, rfl⟩ : ∃ n, fuel = n + 1 := ⟨fuel - 1, by omega⟩
  obtain ⟨left, hread, hleft⟩ := element fuel depth (CodePoint.ofChar '}' :: rest) (by omega)
    (hfits (name, v) List.mem_cons_self) (endsNumber_cons (by decide))
  rw [List.append_assoc]
  exact readMembers_last (readName_of_isName hname (by omega) _) hread hleft

theorem reads_moreMembers {start more name : Text} {ms : List (Text × Json)}
    (hname : IsName start name) (element : Reads src (.element v))
    (members : Reads more (.members ms)) :
    Reads (start ++ src ++ "," ++ more) (.members ((name, v) :: ms)) := by
  intro fuel depth rest hfuel hfits
  have happend : start ++ src ++ "," ++ more ++ CodePoint.ofChar '}' :: rest =
      start ++ (src ++ CodePoint.ofChar ',' :: (more ++ CodePoint.ofChar '}' :: rest)) := by
    simp
  rw [List.append_assoc, comma_append, List.length_append, List.length_append,
    List.length_cons] at hfuel
  obtain ⟨fuel, rfl⟩ : ∃ n, fuel = n + 1 := ⟨fuel - 1, by omega⟩
  obtain ⟨left, hread, hleft⟩ :=
    element fuel depth (CodePoint.ofChar ',' :: (more ++ CodePoint.ofChar '}' :: rest))
    (by omega) (hfits (name, v) List.mem_cons_self) (endsNumber_cons (by decide))
  rw [happend, readMembers_more (readName_of_isName hname (by omega) _) hread hleft,
    members fuel depth rest (by omega) fun m hm => hfits m (List.mem_cons_of_mem _ hm)]
  rfl

/-- Every part of a JSON text that is within the limits is read. -/
theorem Spells.reads (h : Spells src part) : Reads src part := by
  induction h with
  | word h => exact reads_word h
  | number h => exact reads_number h
  | text h => exact reads_text h
  | emptyList h => exact reads_emptyList h
  | list h ih => exact reads_list h ih
  | emptyObject h => exact reads_emptyObject h
  | object h ih => exact reads_object h ih
  | element hbefore h hafter ih => exact reads_element hbefore h hafter ih
  | lastItem h ih => exact reads_lastItem ih
  | moreItems h hmore ih ihmore => exact reads_moreItems ih ihmore
  | lastMember hname h ih => exact reads_lastMember hname ih
  | moreMembers hname h hmore ih ihmore => exact reads_moreMembers hname ih ihmore

/-! ## Whole texts -/

theorem Spells.head?_ne (h : Spells t (.element v)) :
    t.head? ≠ some (CodePoint.ofChar '\uFEFF') := by
  cases h with
  | @element before src after v hbefore h hafter =>
    cases before with
    | nil => exact (h.startsValue.append after).head?_ne
    | cons c before =>
      have hspace := hbefore c List.mem_cons_self
      intro hc
      rw [Option.some.inj hc] at hspace
      exact absurd hspace (by decide)

section

variable [NestingLimits]

theorem readWhite_eq_ok (h : readWhite t = .ok v) :
    ∃ raw, Spells t (.element raw) ∧ Fits depthLimit raw ∧ v = raw.settle := by
  obtain ⟨⟨found, left⟩, hread, h⟩ := bind_eq_ok.mp h
  have hvalue := (sound (2 * t.length + 2)).value depthLimit (skipSpace t)
  rw [hread] at hvalue
  obtain ⟨src, raw, hsrc, hspells, hfits, hsettle⟩ := hvalue
  obtain ⟨before, hbefore, happend⟩ := exists_blank t
  obtain ⟨after, hafter, happend'⟩ := exists_blank left
  dsimp only at h
  split at h
  · next hskip =>
    cases h
    rw [hskip, List.append_nil] at happend'
    refine ⟨raw, ?_, hfits, hsettle⟩
    rw [happend, hsrc, happend', ← List.append_assoc]
    exact .element hbefore hspells hafter
  · cases h

/-- The texts that are read are those that the grammar has, within the limits, and they are read as
what they stand for, with each name taken once. -/
theorem read_eq_ok_iff :
    read t = .ok v ↔ ∃ raw, Spells t (.element raw) ∧ Fits depthLimit raw ∧ v = raw.settle := by
  constructor
  · intro h
    unfold read at h
    split at h
    · cases h
    · split at h
      · next found hwhite =>
        cases h
        exact readWhite_eq_ok hwhite
      · cases h
      · cases h
      · cases h
  · rintro ⟨raw, hspells, hfits, rfl⟩
    obtain ⟨left, hread, hleft⟩ :=
      hspells.reads (2 * t.length + 2) depthLimit [] (by omega) hfits nofun
    rw [List.append_nil] at hread
    have hwhite : readWhite t = .ok raw.settle := by
      rw [readWhite, hread]
      simp only [ok_bind, hleft]
      rfl
    unfold read
    rw [hwhite]
    exact if_neg hspells.head?_ne

def IsTooLarge (t : Text) : Prop :=
  ∃ blank rest, t = blank ++ rest ∧ Blank blank ∧ Exceeds depthLimit .value rest

/-- A text is refused for its form, unless it reaches a limit first. -/
theorem isTooLarge_of_read {e : ReadError} (h : read t = .error e)
    (hform : ∀ problem place, e ≠ .malformed problem place) : IsTooLarge t := by
  have limit {stop : Stop} (hwhite : readWhite t = .error stop) (hstop : stop.IsLimit) :
      IsTooLarge t := by
    have hvalue := (sound (2 * t.length + 2)).value depthLimit (skipSpace t)
    obtain ⟨before, hbefore, happend⟩ := exists_blank t
    rcases bind_eq_error.mp hwhite with hread | ⟨⟨found, left⟩, -, h⟩
    · rw [hread] at hvalue
      exact ⟨before, _, happend, hbefore, hvalue hstop⟩
    · dsimp only at h
      split at h
      · cases h
      · cases h
        exact absurd hstop (not_isLimit_malformed _ _)
  unfold read at h
  split at h
  · cases h
    exact absurd rfl (hform _ _)
  · split at h
    · cases h
    · cases h
      exact absurd rfl (hform _ _)
    · next hwhite => exact limit hwhite nofun
    · next hwhite => exact limit hwhite nofun

end

/-! ## What is written is read back -/

mutual

/-- How many lists and objects are open at once in the text of a value. -/
def nesting (v : Json) : Nat :=
  match v with
  | list items => nestingOfItems items + 1
  | object members => nestingOfMembers members + 1
  | _ => 0

def nestingOfItems (items : List Json) : Nat :=
  match items with
  | [] => 0
  | v :: rest => max (nesting v) (nestingOfItems rest)

def nestingOfMembers (members : List (Text × Json)) : Nat :=
  match members with
  | [] => 0
  | (_, v) :: rest => max (nesting v) (nestingOfMembers rest)

end

theorem nestingOfItems_le {items : List Json} {n : Nat} :
    nestingOfItems items ≤ n ↔ ∀ v ∈ items, v.nesting ≤ n := by
  induction items with
  | nil => simp [nestingOfItems]
  | cons v items ih => rw [nestingOfItems, max_le_iff, ih, List.forall_mem_cons]

theorem nestingOfMembers_le {members : List (Text × Json)} {n : Nat} :
    nestingOfMembers members ≤ n ↔ ∀ m ∈ members, m.2.nesting ≤ n := by
  induction members with
  | nil => simp [nestingOfMembers]
  | cons m members ih => rw [nestingOfMembers, max_le_iff, ih, List.forall_mem_cons]

theorem IsData.fits (hv : v.IsData) (hdepth : v.nesting ≤ depth) : Fits depth v := by
  induction hv generalizing depth with
  | null => exact .null
  | bool b => exact .bool b
  | int hlimit => exact .int hlimit
  | text => exact .text _
  | list _ ih =>
    rw [nesting] at hdepth
    obtain ⟨depth, rfl⟩ : ∃ n, depth = n + 1 := ⟨depth - 1, by omega⟩
    exact .list fun v hv => ih v hv (nestingOfItems_le.mp (Nat.le_of_succ_le_succ hdepth) v hv)
  | object _ _ _ ih =>
    rw [nesting] at hdepth
    obtain ⟨depth, rfl⟩ : ∃ n, depth = n + 1 := ⟨depth - 1, by omega⟩
    exact .object fun m hm => ih m hm (nestingOfMembers_le.mp (Nat.le_of_succ_le_succ hdepth) m hm)

/-- The text of a value that is not nested too deeply is read as the value. -/
theorem read_write [NestingLimits] {s : Style} (hs : s.IsBlank) (hv : v.IsData)
    (hdepth : v.nesting ≤ depthLimit) : read (v.write s) = .ok v :=
  read_eq_ok_iff.mpr ⟨v, (spells_write hs hv).blank_element (List.forall_mem_nil _), hv.fits hdepth,
    hv.settle_eq.symm⟩

end Json

end LocaleGen
