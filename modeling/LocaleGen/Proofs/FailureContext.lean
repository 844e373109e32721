import LocaleGen.Proofs.Gathering
import LocaleGen.Proofs.Verdict
import Mathlib

/-!
# Contexts that failures take in

A failure arises with a context and takes in further ones. Under every name it keeps the first value
that is not null (`Failure.firstValue`), in the order in which the names have come up first:
`Failure.KeepsFirst` says so of a context, and filling in one more value keeps it so
(`Failure.KeepsFirst.add`). What a failure says apart from its context is settled when it arises.
All of it is `Failure.context_accumulates`.
-/

namespace LocaleGen

@[simp] theorem Json.isNull_iff {v : Json} : v.isNull = true ↔ v = .null := by
  cases v <;> simp [Json.isNull]

namespace Failure

/-! ## First values -/

def firstValue (supplied : List (Text × Json)) (name : Text) : Json :=
  ((supplied.find? fun e => e.1 = name && !e.2.isNull).map Prod.snd).getD .null

/-- A context has every name that has been supplied, in the order in which they have come up first,
with its first value. -/
structure KeepsFirst (supplied : List (Text × Json)) (context : Dict Text Json) : Prop where
  keys : context.keys = (supplied.map Prod.fst).eraseDups
  values : ∀ name, valueIn context name = firstValue supplied name

variable {supplied : List (Text × Json)} {context : Dict Text Json} {name : Text}
    {v : Json} {f : Failure}

theorem valueIn_of_get? (h : context.get? name = some v) : valueIn context name = v := by
  rw [valueIn, h, Option.getD_some]

theorem valueIn_of_notMem (h : name ∉ context.keys) : valueIn context name = .null := by
  rw [Dict.mem_keys_iff, Option.not_isSome_iff_eq_none] at h
  rw [valueIn, h, Option.getD_none]

theorem valueIn_addContext (context : Dict Text Json) (e : Text × Json) (name : Text) :
    valueIn (addContext context e) name =
      if name = e.1 then (valueIn context e.1).orElse e.2 else valueIn context name := by
  rw [valueIn, get?_addContext]
  split_ifs <;> rfl

theorem keys_addContext (context : Dict Text Json) (e : Text × Json) :
    (addContext context e).keys =
      if e.1 ∈ context.keys then context.keys else context.keys ++ [e.1] := by
  -- a name that is not there has no value that could be in the way
  have hmissing (hmem : e.1 ∉ context.keys) : (valueIn context e.1).isNull = true := by
    rw [valueIn_of_notMem hmem]
    rfl
  grind [addContext]

theorem firstValue_concat (supplied : List (Text × Json)) (e : Text × Json) (name : Text) :
    firstValue (supplied ++ [e]) name =
      if name = e.1 then (firstValue supplied e.1).orElse e.2 else firstValue supplied name := by
  rw [firstValue, List.find?_append]
  split_ifs with hname
  · subst hname
    rw [firstValue]
    cases hfound : supplied.find? fun e' => e'.1 = e.1 && !e'.2.isNull with
    | some e' =>
      have hset := List.find?_some hfound
      simp_all [Json.orElse]
    | none =>
      cases hnull : e.2.isNull with
      | true => simp [Json.orElse, Json.isNull, Json.isNull_iff.mp hnull]
      | false => simp [hnull, Json.orElse, Json.isNull_iff.mpr rfl]
  · have hnone : [e].find? (fun e' => e'.1 = name && !e'.2.isNull) = none := by simp [Ne.symm hname]
    rw [hnone, Option.or_none]
    rfl

theorem KeepsFirst.add (h : KeepsFirst supplied context) (e : Text × Json) :
    KeepsFirst (supplied ++ [e]) (addContext context e) where
  keys := by
    rw [keys_addContext, List.map_append, List.map_singleton, eraseDups_concat, h.keys]
    simp only [List.mem_eraseDups]
  values name := by
    rw [valueIn_addContext, firstValue_concat, h.values, h.values]

theorem KeepsFirst.addAll (h : KeepsFirst supplied context) (entries : List (Text × Json)) :
    KeepsFirst (supplied ++ entries) (entries.foldl addContext context) := by
  induction entries generalizing supplied context with
  | nil => rwa [List.append_nil]
  | cons e entries ih =>
    have hadded := ih (h.add e)
    rwa [List.append_assoc] at hadded

theorem keepsFirst_entries (context : Dict Text Json) : KeepsFirst context.entries context where
  keys := by
    have hkeys := Dict.keys_ofList context.entries
    rwa [Dict.keys, Dict.entries_ofList context.distinct] at hkeys
  values name := by
    rw [firstValue]
    cases hfound : context.entries.find? fun e => e.1 = name && !e.2.isNull with
    | some e =>
      have hset := List.find?_some hfound
      obtain rfl : e.1 = name := by simp_all
      exact valueIn_of_get? (Dict.get?_of_mem (List.mem_of_find?_eq_some hfound))
    | none =>
      cases hget : context.get? name with
      | none => simp [valueIn, hget]
      | some v =>
        have hnull := List.find?_eq_none.mp hfound (name, v) (Dict.mem_entries_iff.mpr hget)
        rw [valueIn_of_get? hget]
        exact Json.isNull_iff.mp (by simpa using hnull)

theorem entries_eq_map (context : Dict Text Json) :
    context.entries = context.keys.map fun name => (name, valueIn context name) := by
  rw [Dict.keys, List.map_map]
  refine (List.map_id _).symm.trans (List.map_congr_left fun e he => ?_)
  rw [Function.comp, valueIn_of_get? (Dict.get?_of_mem he)]
  rfl

def furtherNames (supplied : List (Text × Json)) : List Text :=
  (supplied.map Prod.fst).eraseDups.filter fun name => name ≠ assetName ∧ name ≠ stageName

theorem KeepsFirst.entries_eq (h : KeepsFirst supplied context) :
    context.entries = (supplied.map Prod.fst).eraseDups.map fun name =>
      (name, firstValue supplied name) := by
  rw [entries_eq_map, h.keys]
  exact List.map_congr_left fun name _ => by rw [h.values]

theorem KeepsFirst.details_eq (h : KeepsFirst supplied f.context) :
    f.details = (furtherNames supplied).map fun name =>
      (name, (firstValue supplied name).display) := by
  rw [details, h.entries_eq, List.filter_map, List.map_map]
  rfl

/-! ## Contexts that are refused

A context from outside may not name what its action takes by that name already. -/

def Repeats (taken : List Text) (context : List (Text × Json)) : Prop :=
  ∃ name ∈ taken, name ∈ context.map Prod.fst

instance (taken : List Text) (context : List (Text × Json)) : Decidable (Repeats taken context) :=
  inferInstanceAs (Decidable (∃ name ∈ taken, _))

variable {taken : List Text} {entries : List (Text × Json)}

@[simp] theorem isSome_repeated? (action : Text) : (repeated? action taken entries).isSome ↔
    Repeats taken entries := by
  rw [repeated?, Option.isSome_map, List.find?_isSome]
  constructor
  · rintro ⟨e, he, htaken⟩
    exact ⟨e.1, List.contains_iff_mem.mp htaken, Dict.mem_keys_ofList.mp (List.mem_map_of_mem he)⟩
  · rintro ⟨name, htaken, hmem⟩
    obtain ⟨e, he, rfl⟩ := List.mem_map.mp (Dict.mem_keys_ofList.mpr hmem)
    exact ⟨e, he, List.contains_iff_mem.mpr htaken⟩

def takenByNew : List Text := Text.words ["self", "message"]
def takenByCall : List Text := Text.words ["self"]

theorem repeated?_of_not_repeats (h : ¬ Repeats taken entries) (action : Text) :
    repeated? action taken entries = none := by
  rwa [← isSome_repeated? action, Option.not_isSome_iff_eq_none] at h

theorem exists_repeated? (h : Repeats taken entries) (action : Text) :
    ∃ complaint, repeated? action taken entries = some complaint :=
  Option.isSome_iff_exists.mp ((isSome_repeated? action).mpr h)

theorem new?_of_not_repeats (kind : FailureKind) (timestamp message : Text)
    (h : ¬ Repeats takenByNew entries) :
    new? kind timestamp message entries = .ok (new kind timestamp message entries) := by
  rw [new?, ← takenByNew, repeated?_of_not_repeats h]

theorem new?_of_repeats (kind : FailureKind) (timestamp message : Text)
    (h : Repeats takenByNew entries) :
    ∃ complaint, new? kind timestamp message entries = .error complaint := by
  obtain ⟨complaint, hrepeated⟩ := exists_repeated? h (kind.receiver.name ++ ".__init__")
  exact ⟨complaint, by rw [new?, ← takenByNew, hrepeated]⟩

theorem withContext?_of_not_repeats (h : ¬ Repeats takenByCall entries) :
    f.withContext? entries = .ok (f.withContext entries) := by
  rw [withContext?, ← takenByCall, repeated?_of_not_repeats h]

theorem withContext?_of_repeats (h : Repeats takenByCall entries) :
    ∃ complaint, f.withContext? entries = .error complaint := by
  obtain ⟨complaint, hrepeated⟩ := exists_repeated? h (FailureKind.general.name ++ ".with_context")
  exact ⟨complaint, by rw [withContext?, ← takenByCall, hrepeated]⟩

end Failure

/-! ## A failure that takes in contexts

Whoever holds a failure sees its asset and its stage as they were noted when it arose and after each
context that it took in. A context that is refused leaves everything as it is. -/

/-- A failure with its asset and its stage as they were noted last. -/
structure NotedFailure where
  failure : Failure
  asset : Json
  stage : Json

namespace NotedFailure

open Failure

def note (f : Failure) : NotedFailure :=
  ⟨f, valueIn f.context assetName, valueIn f.context stageName⟩

def receive (n : NotedFailure) (entries : List (Text × Json)) : NotedFailure :=
  match n.failure.withContext? entries with
  | .ok f => note f
  | .error _ => n

def supplied (context : List (Text × Json)) (calls : List (List (Text × Json))) :
    List (Text × Json) :=
  (Dict.ofList context).entries ++
    (calls.filter fun entries => ¬ Repeats takenByCall entries).flatMap fun entries =>
      (Dict.ofList entries).entries

/-- What holds of a failure that arose in a context and has been given further ones. -/
structure Accumulates (kind : FailureKind) (timestamp message : Text) (context : List (Text × Json))
    (calls : List (List (Text × Json))) (n : NotedFailure) : Prop where
  kind_eq : n.failure.kind = kind
  message_eq : n.failure.message = message
  timestamp_eq : n.failure.timestamp = timestamp
  own_eq : n.failure.own = kind.ownNames.map fun name => (name, valueIn (Dict.ofList context) name)
  keepsFirst : KeepsFirst (supplied context calls) n.failure.context
  asset_eq : n.asset = valueIn n.failure.context assetName
  stage_eq : n.stage = valueIn n.failure.context stageName

variable {kind : FailureKind} {timestamp message : Text} {context entries : List (Text × Json)}
    {calls : List (List (Text × Json))} {n : NotedFailure}

theorem accumulates_note (kind : FailureKind) (timestamp message : Text)
    (context : List (Text × Json)) :
    Accumulates kind timestamp message context [] (note (new kind timestamp message context)) where
  kind_eq := rfl
  message_eq := rfl
  timestamp_eq := rfl
  own_eq := rfl
  keepsFirst := by
    rw [supplied, List.filter_nil, List.flatMap_nil, List.append_nil]
    exact keepsFirst_entries (Dict.ofList context)
  asset_eq := rfl
  stage_eq := rfl

theorem Accumulates.receive (h : Accumulates kind timestamp message context calls n)
    (entries : List (Text × Json)) :
    Accumulates kind timestamp message context (calls ++ [entries]) (n.receive entries) := by
  by_cases hrepeats : Repeats takenByCall entries
  · obtain ⟨complaint, hrefused⟩ := withContext?_of_repeats (f := n.failure) hrepeats
    have hsupplied : supplied context (calls ++ [entries]) = supplied context calls := by
      simp [supplied, hrepeats]
    rw [NotedFailure.receive, hrefused]
    exact { h with keepsFirst := hsupplied ▸ h.keepsFirst }
  · have hsupplied : supplied context (calls ++ [entries]) =
        supplied context calls ++ (Dict.ofList entries).entries := by
      simp [supplied, hrepeats]
    rw [NotedFailure.receive, withContext?_of_not_repeats hrepeats]
    exact { h with
      keepsFirst := hsupplied ▸ h.keepsFirst.addAll (Dict.ofList entries).entries
      asset_eq := rfl
      stage_eq := rfl }

theorem Accumulates.receiveAll (h : Accumulates kind timestamp message context calls n)
    (more : List (List (Text × Json))) :
    Accumulates kind timestamp message context (calls ++ more)
    (more.foldl NotedFailure.receive n) := by
  induction more generalizing calls n with
  | nil => rwa [List.append_nil]
  | cons entries more ih =>
    have hreceived := ih (h.receive entries)
    rwa [List.append_assoc] at hreceived

/-- A failure keeps, for every name that any context has supplied, the first value that is not null,
null if there is none, and the names in the order in which they have come up first. Its asset and
its stage are the ones of its context at any time. The report has every other value by its text.
Kind, message, timestamp and the values of the kind's own stay as they were. Only a context that
repeats what its action takes is refused, and it changes nothing. -/
theorem context_accumulates (kind : FailureKind) (timestamp message : Text)
    (context : List (Text × Json)) :
    ((∃ f, new? kind timestamp message context = .ok f) ↔ ¬ Repeats takenByNew context) ∧
    ∀ f calls n, new? kind timestamp message context = .ok f → n = calls.foldl receive (note f) →
      Accumulates kind timestamp message context calls n ∧
      n.failure.context.entries =
        ((supplied context calls).map Prod.fst).eraseDups.map (fun name =>
          (name, firstValue (supplied context calls) name)) ∧
      n.failure.toJson = .object
        (([("error_type", .text kind.name), ("message", .text message), ("asset", n.asset),
          ("stage", n.stage),
          ("timestamp", .text timestamp),
          ("context", .object ((furtherNames (supplied context calls)).map fun name =>
            (name, .text (firstValue (supplied context calls) name).display)))] :
              List (Text × Json)) ++
          kind.ownNames.map fun name => (name, valueIn (Dict.ofList context) name)) := by
  by_cases hrepeats : Repeats takenByNew context
  · obtain ⟨complaint, hrefused⟩ := new?_of_repeats kind timestamp message hrepeats
    simp [hrefused, hrepeats]
  · have hnew := new?_of_not_repeats kind timestamp message hrepeats
    refine ⟨iff_of_true ⟨_, hnew⟩ hrepeats, ?_⟩
    rintro f calls n hf rfl
    obtain rfl := Except.ok.inj (hnew.symm.trans hf)
    have hall := (accumulates_note kind timestamp message context).receiveAll calls
    rw [List.nil_append] at hall
    refine ⟨hall, hall.keepsFirst.entries_eq, ?_⟩
    rw [toJson, members, hall.kind_eq, hall.message_eq, hall.timestamp_eq, hall.own_eq,
      hall.keepsFirst.details_eq, hall.asset_eq,
      hall.stage_eq, List.map_map]
    rfl

/-- A falsy value is kept, a null is filled in, and the value of the kind's own does not follow. -/
theorem context_accumulates_falsy :
    ∃ f n, new? .retrieval "t" "m" [("url", .null), ("status_code", .bool false)] = .ok f ∧
      n = ([[("url", .text "a"), ("asset", .text "")], [("self", .text "b")],
        [("url", .text "c"), ("asset", .text "d"), ("stage", .null)]] :
          List (List (Text × Json))).foldl receive (note f) ∧
      n.failure.context.entries =
        ([("url", .text "a"), ("status_code", .bool false), ("asset", .text ""), ("stage", .null)] :
          List (Text × Json)) ∧
      n.failure.own = ([("status_code", .bool false), ("url", .null)] : List (Text × Json)) := by
  have h :=
    (context_accumulates .retrieval "t" "m" [("url", .null), ("status_code", .bool false)]).2
  refine ⟨_, _, rfl, rfl, ?_, ?_⟩
  · exact (h _ _ _ rfl rfl).2.1.trans rfl
  · exact (h _ _ _ rfl rfl).1.own_eq.trans rfl

end NotedFailure

end LocaleGen
