import LocaleGen.Cause

/-!
# Languages

A `Language` is one that an application offers. An `IndexEntry` is a language as the index of the
service lists it, with the address of its payload. The first language that is flagged so is the
default.
-/

namespace LocaleGen

/-- A language as it is described to the application. -/
structure Language where
  id : Int
  name : Text
  locale : Text
  direction : Text
  isDefault : Bool
  isBestFit : Bool
  deriving DecidableEq

/-- An entry of the language index. -/
structure IndexEntry where
  id : Int
  url : Option Text
  lastUpdatedAt : Option Text
  shouldUpdate : Bool
  language : Language
  deriving DecidableEq

namespace IndexEntry

def locales (entries : List IndexEntry) : List Text := entries.map fun e => e.language.locale

/-- The place and the entry of the first language flagged as default. -/
def findDefault? (entries : List IndexEntry) : Option (Nat × IndexEntry) :=
  match entries with
  | [] => none
  | e :: rest =>
    if e.language.isDefault then some (0, e)
    else (findDefault? rest).map fun (place, found) => (place + 1, found)

def findDefault (entries : List IndexEntry) : Except Cause (Nat × IndexEntry) :=
  match findDefault? entries with
  | some found => .ok found
  | none => .error (.noDefaultLanguage (locales entries))

theorem getElem?_of_findDefault? {entries : List IndexEntry} {place : Nat} {e : IndexEntry}
    (h : findDefault? entries = some (place, e)) : entries[place]? = some e := by
  induction entries generalizing place with
  | nil => cases h
  | cons first rest ih =>
    rw [findDefault?] at h
    split at h
    · cases h
      rfl
    · obtain ⟨⟨at', found⟩, hfound, heq⟩ := Option.map_eq_some_iff.mp h
      cases heq
      exact ih hfound

theorem isDefault_of_findDefault? {entries : List IndexEntry} {place : Nat} {e : IndexEntry}
    (h : findDefault? entries = some (place, e)) : e.language.isDefault = true := by
  induction entries generalizing place with
  | nil => cases h
  | cons first rest ih =>
    rw [findDefault?] at h
    split at h
    · next hdefault =>
      cases h
      exact hdefault
    · obtain ⟨⟨at', found⟩, hfound, heq⟩ := Option.map_eq_some_iff.mp h
      cases heq
      exact ih hfound

theorem findDefault?_of_findDefault {entries : List IndexEntry} {place : Nat} {e : IndexEntry}
    (h : findDefault entries = .ok (place, e)) : findDefault? entries = some (place, e) := by
  unfold findDefault at h
  split at h
  · next found hfound =>
    cases h
    exact hfound
  · cases h

end IndexEntry

end LocaleGen
