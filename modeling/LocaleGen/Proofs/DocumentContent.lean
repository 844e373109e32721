import LocaleGen.Proofs.Document
import LocaleGen.Proofs.Gathering
import LocaleGen.Proofs.JsonReading
import Mathlib

/-!
# The content of documents

What document a JSON text holds (`Document.IsIn`) is said of the value that the grammar has for the
text, in which names may be repeated: its keys stand in the order in which they occur first, and the
last value of each counts. There is one just if the value has the form of a payload
(`Document.IsPayload`), and this is the document that is read (`Document.ofContent_eq_ok`). In
particular it is read from its own payload, however that is written. Together:
`Document.ofContent_exact`.
-/

namespace LocaleGen

namespace IsLastOf

variable {α β κ : Type} {pairs : List (κ × α)} {k : κ} {a b : α}

theorem unique [DecidableEq κ] (h : IsLastOf pairs k a) (h' : IsLastOf pairs k b) : a = b :=
  Option.some.inj ((Dict.get?_ofList_eq_some.mpr h).symm.trans (Dict.get?_ofList_eq_some.mpr h'))

theorem mem_keys (h : IsLastOf pairs k a) : k ∈ pairs.map Prod.fst := by
  obtain ⟨before, after, rfl, -⟩ := h
  simp

/-- The last pair with a key is the last one whatever is made of the values. -/
theorem map_iff {f : α → β} {b : β} :
    IsLastOf (pairs.map fun p => (p.1, f p.2)) k b ↔ ∃ a, IsLastOf pairs k a ∧ b = f a := by
  constructor
  · rintro ⟨before, after, heq, hafter⟩
    obtain ⟨before', rest, rfl, rfl, hrest⟩ := List.map_eq_append_iff.mp heq
    obtain ⟨⟨k', a⟩, after', rfl, hhead, rfl⟩ := List.map_eq_cons_iff.mp hrest
    obtain ⟨rfl, rfl⟩ := Prod.mk.inj hhead
    exact ⟨a, ⟨before', after', rfl, fun p hp => hafter _ (List.mem_map_of_mem hp)⟩, rfl⟩
  · rintro ⟨a, ⟨before, after, rfl, hafter⟩, rfl⟩
    refine ⟨_, _, by rw [List.map_append, List.map_cons], fun p hp => ?_⟩
    obtain ⟨q, hq, rfl⟩ := List.mem_map.mp hp
    exact hafter q hq

end IsLastOf

namespace Dict

variable {κ α : Type} [DecidableEq κ]

theorem get?_eq_lookup [b : BEq κ] [LawfulBEq κ] (d : Dict κ α) (k : κ) :
    d.get? k = d.entries.lookup k := by
  obtain rfl : instBEqOfDecidableEq = b := lawful_beq_subsingleton _ _
  rfl

theorem ofList_entries (d : Dict κ α) : ofList d.entries = d := by
  obtain ⟨entries, distinct⟩ := d
  have hentries := entries_ofList distinct
  generalize ofList entries = d at hentries
  subst hentries
  rfl

theorem entries_eq (d : Dict κ α) :
    d.entries = d.keys.filterMap fun k => (d.get? k).map fun a => (k, a) := by
  rw [keys, List.filterMap_map]
  calc d.entries = d.entries.filterMap some := List.filterMap_some.symm
    _ = _ := List.filterMap_congr fun p hp => by
      rw [Function.comp_apply, get?_of_mem hp, Option.map_some]

/-- A dictionary is known by its keys in their order and the values under them. -/
theorem eq_of_keys {d d' : Dict κ α} (hkeys : d.keys = d'.keys)
    (hvalues : ∀ k ∈ d.keys, d.get? k = d'.get? k) : d = d' := by
  have hentries : d.entries = d'.entries := by
    rw [entries_eq d, entries_eq d', ← hkeys]
    exact List.filterMap_congr fun k hk => by rw [hvalues k hk]
  obtain ⟨entries, distinct⟩ := d
  obtain rfl : entries = d'.entries := hentries
  rfl

end Dict

namespace Json

def kept (members : List (Text × Json)) : Dict Text Json := Dict.ofList (settleMembers members)

theorem settle_eq_text {v : Json} {t : Text} : v.settle = .text t ↔ v = .text t := by
  cases v <;> simp [settle]

theorem settle_eq_object {v : Json} {members : List (Text × Json)} :
    v.settle = .object members ↔ ∃ all, v = .object all ∧ members = (kept all).entries := by
  cases v <;> simp [settle, kept, eq_comm]

theorem keys_kept (members : List (Text × Json)) :
    (kept members).keys = (members.map Prod.fst).eraseDups := by
  rw [kept, Dict.keys_ofList, settleMembers_eq, List.map_map]
  rfl

theorem get?_kept {members : List (Text × Json)} {name : Text} {w : Json} :
    (kept members).get? name = some w ↔ ∃ v, IsLastOf members name v ∧ w = v.settle := by
  rw [kept, Dict.get?_ofList_eq_some, settleMembers_eq, IsLastOf.map_iff]

/-- A name that is repeated keeps its first place and takes its last value. -/
example : (kept [("yes", .text "Ja"), ("no", .text "Nej"), ("yes", .text "Jo")]).entries =
    ([("yes", .text "Jo"), ("no", .text "Nej")] : List (Text × Json)) := rfl

end Json

namespace Document

/-! ## Documents in values -/

/-- A dictionary has the names of members as its keys, in the order in which they occur first, each
with what the last value under this name stands for. -/
structure Gathers {α : Type} (standsFor : Json → α → Prop) (members : List (Text × Json))
    (d : Dict Text α) : Prop where
  keys : d.keys = (members.map Prod.fst).eraseDups
  values : ∀ k a, d.get? k = some a → ∃ v, IsLastOf members k v ∧ standsFor v a

def IsPhrases (v : Json) (p : Phrases) : Prop :=
  ∃ texts, v = .object texts ∧ Gathers (fun w t => w = .text t) texts p

def IsIn (d : Document) (payload : Json) : Prop :=
  ∃ members sections, payload = .object members ∧ IsLastOf members "data" (.object sections) ∧
    Gathers IsPhrases sections d.sections

def IsPayload (payload : Json) : Prop :=
  ∃ members sections, payload = .object members ∧ IsLastOf members "data" (.object sections) ∧
    ∀ key v, IsLastOf sections key v → ∃ texts, v = .object texts ∧ ∀ name w,
      IsLastOf texts name w → ∃ t, w = .text t

namespace Gathers

variable {α β : Type} {standsFor : Json → α → Prop} {members : List (Text × Json)}
    {d d' : Dict Text α}

/-- Whatever is under a name last has been gathered. -/
theorem exists_of_isLastOf (h : Gathers standsFor members d) {k : Text} {v : Json}
    (hlast : IsLastOf members k v) : ∃ a, d.get? k = some a ∧ standsFor v a := by
  have hmem : k ∈ d.keys := by
    rw [h.keys, List.mem_eraseDups]
    exact hlast.mem_keys
  obtain ⟨a, ha⟩ := Option.isSome_iff_exists.mp (Dict.mem_keys_iff.mp hmem)
  obtain ⟨w, hw, hstands⟩ := h.values k a ha
  exact ⟨a, ha, hlast.unique hw ▸ hstands⟩

theorem unique (hfunction : ∀ v a b, standsFor v a → standsFor v b → a = b)
    (h : Gathers standsFor members d) (h' : Gathers standsFor members d') : d = d' := by
  refine Dict.eq_of_keys (h.keys.trans h'.keys.symm) fun k hk => ?_
  obtain ⟨a, ha⟩ := Option.isSome_iff_exists.mp (Dict.mem_keys_iff.mp hk)
  obtain ⟨v, hv, hstands⟩ := h.values k a ha
  obtain ⟨b, hb, hstands'⟩ := h'.exists_of_isLastOf hv
  rw [ha, hb, hfunction v a b hstands hstands']

theorem of_kept (rel : Json → α → Prop) {pairs : List (Text × α)}
    (himp : ∀ v a, rel v.settle a → standsFor v a)
    (h : List.Forall₂ (fun m p => p.1 = m.1 ∧ rel m.2 p.2) (Json.kept members).entries pairs) :
    Gathers standsFor members (Dict.ofList pairs) := by
  have hkeys : pairs.map Prod.fst = (Json.kept members).keys := by
    have heq :=
      List.forall₂_map_left_iff.mpr (List.forall₂_map_right_iff.mpr (h.imp fun _ _ hp => hp.1.symm))
    exact (List.forall₂_eq_eq_eq ▸ heq).symm
  have hentries : (Dict.ofList pairs).entries = pairs :=
    Dict.entries_ofList (hkeys ▸ (Json.kept members).distinct)
  refine ⟨?_, fun k a hget => ?_⟩
  · rw [Dict.keys, hentries, hkeys, Json.keys_kept]
  · obtain ⟨m, hm, rfl, hrel⟩ := exists_of_mem_left h.flip (Dict.mem_of_get?_ofList hget)
    obtain ⟨v, hv, hsettle⟩ := Json.get?_kept.mp (Dict.get?_of_mem hm)
    exact ⟨v, hv, himp v a (hsettle ▸ hrel)⟩

end Gathers

variable {d d' : Document} {raw : Json} {content : Text} {members : List (Text × Json)}

theorem IsPhrases.unique {v : Json} {p q : Phrases} (h : IsPhrases v p)
    (h' : IsPhrases v q) : p = q := by
  obtain ⟨texts, rfl, hp⟩ := h
  obtain ⟨_, heq, hq⟩ := h'
  obtain rfl := Json.object.inj heq
  exact hp.unique (fun v t u ht hu => Json.text.inj (ht.symm.trans hu)) hq

/-- A payload holds one document at most. -/
theorem IsIn.unique (h : d.IsIn raw) (h' : d'.IsIn raw) : d = d' := by
  obtain ⟨members, sections, rfl, hdata, hd⟩ := h
  obtain ⟨_, _, heq, hdata', hd'⟩ := h'
  obtain rfl := Json.object.inj heq
  obtain rfl := Json.object.inj (hdata.unique hdata')
  have hsections : d.sections = d'.sections := hd.unique (fun _ _ _ h h' => h.unique h') hd'
  obtain ⟨sections⟩ := d
  obtain rfl : sections = d'.sections := hsections
  rfl

theorem IsIn.isPayload (h : d.IsIn raw) : IsPayload raw := by
  obtain ⟨members, sections, rfl, hdata, hd⟩ := h
  refine ⟨members, sections, rfl, hdata, fun key v hv => ?_⟩
  obtain ⟨p, -, texts, rfl, hp⟩ := hd.exists_of_isLastOf hv
  refine ⟨texts, rfl, fun name w hw => ?_⟩
  obtain ⟨t, -, rfl⟩ := hp.exists_of_isLastOf hw
  exact ⟨t, rfl⟩

/-! ## Documents that are read -/

theorem textsOfJson_eq_ok {path : List Text} {texts : List (Text × Text)}
    (h : textsOfJson path members = .ok texts) :
    List.Forall₂ (fun m t => t.1 = m.1 ∧ m.2 = .text t.2) members texts := by
  induction members generalizing texts with
  | nil =>
    cases h
    exact .nil
  | cons m rest ih =>
    obtain ⟨key, v⟩ := m
    rw [textsOfJson] at h
    split at h
    · next t ht =>
      obtain ⟨more, hmore, h⟩ := bind_eq_ok.mp h
      cases h
      exact .cons ⟨rfl, by cases v <;> simp_all [Json.asText?]⟩ (ih hmore)
    · cases h

def IsRead (v : Json) (p : Phrases) : Prop :=
  ∃ members texts, v = .object members ∧
    List.Forall₂ (fun m t => t.1 = m.1 ∧ m.2 = .text t.2) members texts ∧ p = Dict.ofList texts

theorem sectionsOfJson_eq_ok {sections : List (Text × Phrases)}
    (h : sectionsOfJson members = .ok sections) :
    List.Forall₂ (fun m s => s.1 = m.1 ∧ IsRead m.2 s.2) members sections := by
  induction members generalizing sections with
  | nil =>
    cases h
    exact .nil
  | cons m rest ih =>
    obtain ⟨key, v⟩ := m
    rw [sectionsOfJson] at h
    split at h
    · next texts htexts =>
      obtain ⟨phrases, hphrases, h⟩ := bind_eq_ok.mp h
      obtain ⟨more, hmore, h⟩ := bind_eq_ok.mp h
      cases h
      refine .cons ⟨rfl, texts, phrases, ?_, textsOfJson_eq_ok hphrases, rfl⟩ (ih hmore)
      cases v <;> simp_all [Json.asObject?]
    · cases h

theorem isIn_of_decode (h : decode (.object (Json.kept members).entries) = .ok d) :
    Gathers IsPhrases members d.sections := by
  obtain ⟨sections, hsections, h⟩ := bind_eq_ok.mp h
  cases h
  refine .of_kept IsRead (fun v p hp => ?_) (sectionsOfJson_eq_ok hsections)
  obtain ⟨texts, phrases, hobject, htexts, rfl⟩ := hp
  obtain ⟨all, rfl, rfl⟩ := Json.settle_eq_object.mp hobject
  exact ⟨all, rfl, .of_kept (fun w t => w = .text t) (fun w t => Json.settle_eq_text.mp) htexts⟩

theorem isShape_kept {sections : List (Text × Json)}
    (h : ∀ key v, IsLastOf sections key v → ∃ texts, v = .object texts ∧ ∀ name w,
      IsLastOf texts name w → ∃ t, w = .text t) :
    IsShape (.object (Json.kept sections).entries) := by
  refine ⟨_, rfl, fun m hm => ?_⟩
  obtain ⟨v, hv, hsettle⟩ := Json.get?_kept.mp (Dict.get?_of_mem hm)
  obtain ⟨texts, rfl, htexts⟩ := h _ v hv
  refine ⟨(Json.kept texts).entries, by rw [hsettle]; rfl, fun n hn => ?_⟩
  obtain ⟨w, hw, hsettle'⟩ := Json.get?_kept.mp (Dict.get?_of_mem hn)
  obtain ⟨t, rfl⟩ := htexts _ w hw
  exact ⟨t, by rw [hsettle']; rfl⟩

theorem member?_settle {name : Text} {v : Json} :
    (Json.object members).settle.member? name = some v ↔
    ∃ w, IsLastOf members name w ∧ v = w.settle := by
  rw [← Json.get?_kept, Dict.get?_eq_lookup]
  rfl

section

variable [NestingLimits]

theorem isIn_of_ofContent (hread : Json.read content = .ok raw.settle)
    (h : ofContent content = .ok d) : d.IsIn raw := by
  rw [ofContent, hread] at h
  dsimp only at h
  split at h
  · cases h
  · next data hdata =>
    have hdecode : decode data = .ok d := mapError_eq_ok.mp (mapError_eq_ok.mp h)
    obtain ⟨hmember, kept, rfl⟩ := data?_eq_some.mp hdata
    cases raw with
    | object members =>
      obtain ⟨w, hw, hsettle⟩ := member?_settle.mp hmember
      obtain ⟨sections, rfl, rfl⟩ := Json.settle_eq_object.mp hsettle.symm
      exact ⟨members, sections, rfl, hw, isIn_of_decode hdecode⟩
    | _ => cases hmember

theorem exists_ofContent (hread : Json.read content = .ok raw.settle) (h : IsPayload raw) :
    ∃ d, ofContent content = .ok d := by
  obtain ⟨members, sections, rfl, hdata, hsections⟩ := h
  exact exists_ofContent_iff.mpr ⟨_, _, hread, member?_settle.mpr ⟨_, hdata, rfl⟩,
    isShape_kept hsections⟩

theorem ofContent_eq_ok (hread : Json.read content = .ok raw.settle) :
    ofContent content = .ok d ↔ d.IsIn raw := by
  constructor
  · exact isIn_of_ofContent hread
  · intro h
    obtain ⟨d', hd'⟩ := exists_ofContent hread h.isPayload
    rw [hd', h.unique (isIn_of_ofContent hread hd')]

end

/-! ## Payloads of documents -/

def textsValue (p : Phrases) : Json := .object (p.entries.map fun t => (t.1, .text t.2))

def payload (d : Document) : Json :=
  .object [("data", .object (d.sections.entries.map fun s => (s.1, textsValue s.2)))]

/-- No text holds the halves of a pair side by side. -/
structure IsUnpaired (d : Document) : Prop where
  sections : ∀ s ∈ d.sections.entries, s.1.IsUnpaired
  phrases : ∀ s ∈ d.sections.entries, ∀ t ∈ s.2.entries, t.1.IsUnpaired ∧ t.2.IsUnpaired

/-- A dictionary is gathered from its own entries. -/
theorem Gathers.of_entries {α : Type} (d : Dict Text α) (value : α → Json)
    {standsFor : Json → α → Prop} (h : ∀ a, standsFor (value a) a) :
    Gathers standsFor (d.entries.map fun p => (p.1, value p.2)) d where
  keys := by
    have hkeys := Dict.keys_ofList d.entries
    rw [Dict.ofList_entries] at hkeys
    rw [List.map_map]
    exact hkeys
  values k a hget := by
    rw [← Dict.ofList_entries d, Dict.get?_ofList_eq_some] at hget
    exact ⟨value a, IsLastOf.map_iff.mpr ⟨a, hget, rfl⟩, h a⟩

theorem isIn_payload (d : Document) : d.IsIn d.payload := by
  refine ⟨_, _, rfl, ⟨[], [], rfl, List.forall_mem_nil _⟩, .of_entries d.sections textsValue
    fun p => ⟨_, rfl, ?_⟩⟩
  exact .of_entries p .text fun _ => rfl

theorem fits_payload [NestingLimits] (d : Document) : Json.Fits Json.depthLimit d.payload := by
  obtain ⟨rest, hlimit⟩ : ∃ rest, Json.depthLimit = rest + 3 :=
    Nat.exists_eq_add_of_le' NestingLimits.three_le_reading
  rw [hlimit]
  refine .object (List.forall_mem_singleton.mpr (.object (List.forall_mem_map.mpr fun s _ => ?_)))
  exact .object (List.forall_mem_map.mpr fun t _ => .text t.2)

theorem isData_payload (h : d.IsUnpaired) : d.payload.IsData := by
  have data : Text.IsUnpaired "data" := by decide
  refine .object (List.nodup_singleton _) (List.forall_mem_singleton.mpr data)
    (List.forall_mem_singleton.mpr (.object ?_ ?_ ?_))
  · rw [List.map_map]
    exact d.sections.distinct
  · exact List.forall_mem_map.mpr h.sections
  · refine List.forall_mem_map.mpr fun s hs => .object ?_ ?_ ?_
    · rw [List.map_map]
      exact s.2.distinct
    · exact List.forall_mem_map.mpr fun t ht => (h.phrases s hs t ht).1
    · exact List.forall_mem_map.mpr fun t ht => .text (h.phrases s hs t ht).2

theorem settle_payload (d : Document) : d.payload.settle = d.payload := by
  refine Json.settle_object (List.nodup_singleton _)
    (List.forall_mem_singleton.mpr (Json.settle_object ?_ ?_))
  · rw [List.map_map]
    exact d.sections.distinct
  · refine List.forall_mem_map.mpr fun s _ =>
      Json.settle_object ?_ (List.forall_mem_map.mpr fun t _ => rfl)
    rw [List.map_map]
    exact s.2.distinct

theorem nesting_payload [NestingLimits] (d : Document) : d.payload.nesting ≤ Json.depthLimit := by
  have hlimit : 3 ≤ Json.depthLimit := NestingLimits.three_le_reading
  refine le_trans (Nat.succ_le_succ (Json.nestingOfMembers_le.mpr
    (List.forall_mem_singleton.mpr ?_))) hlimit
  refine Nat.succ_le_succ (Json.nestingOfMembers_le.mpr (List.forall_mem_map.mpr fun s _ => ?_))
  exact Nat.succ_le_succ (Json.nestingOfMembers_le.mpr (List.forall_mem_map.mpr fun t _ => Nat.zero_le 0))

theorem ofContent_write [NestingLimits] {style : Json.Style} (hblank : style.IsBlank)
    (h : d.IsUnpaired) : ofContent (d.payload.write style) = .ok d := by
  have hread : Json.read (d.payload.write style) = .ok d.payload.settle := by
    rw [settle_payload]
    exact Json.read_write hblank (isData_payload h) (nesting_payload d)
  exact (ofContent_eq_ok hread).mpr (isIn_payload d)

def places (d : Document) : List (Text × Text) :=
  d.sections.entries.flatMap fun s => s.2.keys.map fun k => (s.1, k)

theorem mem_places {d : Document} {place : Text × Text} :
    place ∈ d.places ↔ ∃ p, d.sections.get? place.1 = some p ∧ (p.get? place.2).isSome := by
  simp only [places, List.mem_flatMap, List.mem_map]
  constructor
  · rintro ⟨s, hs, k, hk, rfl⟩
    exact ⟨s.2, Dict.get?_of_mem hs, Dict.mem_keys_iff.mp hk⟩
  · rintro ⟨p, hp, hk⟩
    rw [← Dict.ofList_entries d.sections] at hp
    exact ⟨_, Dict.mem_of_get?_ofList hp, place.2, Dict.mem_keys_iff.mpr hk, rfl⟩

theorem nodup_places (d : Document) : d.places.Nodup := by
  refine List.nodup_flatMap.mpr ⟨fun s _ => ?_, ?_⟩
  · exact s.2.distinct.map fun k l h => (Prod.mk.inj h).2
  · refine (List.pairwise_map.mp d.sections.distinct).imp fun {s t} hne => ?_
    rintro place hs ht
    obtain ⟨k, -, rfl⟩ := List.mem_map.mp hs
    obtain ⟨l, -, hl⟩ := List.mem_map.mp ht
    exact hne (Prod.mk.inj hl).1.symm

/-- The number of phrases is that of the places where there is one. -/
theorem keyCount_eq (d : Document) :
    d.keyCount = Set.ncard {place : Text × Text | ∃ p, d.sections.get? place.1 = some p ∧
      (p.get? place.2).isSome} := by
  have hset : {place : Text × Text | ∃ p, d.sections.get? place.1 = some p ∧
      (p.get? place.2).isSome} = d.places.toFinset := by
    ext place
    simp only [List.coe_toFinset, ← mem_places]
  rw [hset, Set.ncard_coe_finset, List.toFinset_card_of_nodup d.nodup_places, places,
    List.length_flatMap, keyCount,
    ← List.sum_eq_foldl]
  refine congrArg List.sum (List.map_congr_left fun s _ => ?_)
  rw [List.length_map, Dict.keys, List.length_map, Dict.size]

/-! ## All texts -/

/-- What is read from a text. There is a document just if the text is JSON, within the limits, with
the form of a payload; it is the one that the payload holds. Any other text is refused as malformed,
unless it reaches a limit first. A document is read from each text of its payload, and it counts the
places at which it has phrases. -/
theorem ofContent_exact [NestingLimits] (content : Text) :
    ((∃ d, ofContent content = .ok d) ↔
      ∃ raw, Json.Spells content (.element raw) ∧ Json.Fits Json.depthLimit raw ∧ IsPayload raw) ∧
    (∀ d, ofContent content = .ok d ↔
      ∃ raw, Json.Spells content (.element raw) ∧ Json.Fits Json.depthLimit raw ∧ d.IsIn raw) ∧
    (∀ raw, Json.Spells content (.element raw) → Json.Fits Json.depthLimit raw → ¬ IsPayload raw →
      ∃ f, ofContent content = .error f ∧ f.name = "MalformedDocumentError") ∧
    (∀ f, ofContent content = .error f →
      f.name = "MalformedDocumentError" ∨ Json.IsTooLarge content) ∧
    (∀ d : Document, Json.Spells content (.element d.payload) → ofContent content = .ok d) ∧
    (∀ (d : Document) (style : Json.Style), style.IsBlank → d.IsUnpaired →
      content = d.payload.write style →
      ofContent content = .ok d) ∧
    ∀ d : Document,
      d.keyCount = Set.ncard {place : Text × Text | ∃ p, d.sections.get? place.1 = some p ∧
        (p.get? place.2).isSome} := by
  have read {raw : Json} (hspells : Json.Spells content (.element raw))
    (hfits : Json.Fits Json.depthLimit raw) :
      Json.read content = .ok raw.settle := Json.read_eq_ok_iff.mpr ⟨raw, hspells, hfits, rfl⟩
  have holds (d : Document) : ofContent content = .ok d ↔
      ∃ raw, Json.Spells content (.element raw) ∧ Json.Fits Json.depthLimit raw ∧ d.IsIn raw := by
    constructor
    · intro h
      obtain ⟨payload, data, hread, -⟩ := exists_ofContent_iff.mp ⟨d, h⟩
      obtain ⟨raw, hspells, hfits, rfl⟩ := Json.read_eq_ok_iff.mp hread
      exact ⟨raw, hspells, hfits, isIn_of_ofContent hread h⟩
    · rintro ⟨raw, hspells, hfits, h⟩
      exact (ofContent_eq_ok (read hspells hfits)).mpr h
  refine ⟨?_, holds, ?_, ?_, fun d hspells => ?_, ?_, keyCount_eq⟩
  · constructor
    · rintro ⟨d, h⟩
      obtain ⟨raw, hspells, hfits, h⟩ := (holds d).mp h
      exact ⟨raw, hspells, hfits, h.isPayload⟩
    · rintro ⟨raw, hspells, hfits, h⟩
      exact exists_ofContent (read hspells hfits) h
  · intro raw hspells hfits hnot
    have hread := read hspells hfits
    cases h : ofContent content with
    | ok d => exact absurd (isIn_of_ofContent hread h).isPayload hnot
    | error f =>
      rcases name_or_read_of_ofContent h with hname | ⟨e, herror, -⟩
      · exact ⟨f, rfl, hname⟩
      · cases hread.symm.trans herror
  · intro f h
    rcases name_or_read_of_ofContent h with hname | ⟨e, herror, hform, -⟩
    · exact .inl hname
    · exact .inr (Json.isTooLarge_of_read herror hform)
  · exact (holds d).mpr ⟨_, hspells, fits_payload d, isIn_payload d⟩
  · rintro d style hblank unpaired rfl
    exact ofContent_write hblank unpaired

end Document

end LocaleGen
