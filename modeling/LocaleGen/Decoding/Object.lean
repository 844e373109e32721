import LocaleGen.Finding
import LocaleGen.Json.Value

/-!
# Decoding objects

A `Decoded` value or all the findings that stand in its way, in the order of the fields. `required`
and `optional` decode one member of an object; `andThen` joins fields, so that a second fault is
reported beside the first.
-/

namespace LocaleGen

abbrev Decoded (α : Type) : Type := Except (List Finding) α

namespace Decoding

variable {α β : Type}

/-- A function of the fields so far, applied to one more field. -/
def andThen (field : Decoded α) (f : Decoded (α → β)) : Decoded β :=
  match f, field with
  | .ok f, .ok a => .ok (f a)
  | .ok _, .error found => .error found
  | .error before, .ok _ => .error before
  | .error before, .error found => .error (before ++ found)

def scalar (decode : Json → Except Issue α) (name : Text) (v : Json) : Decoded α :=
  match decode v with
  | .ok a => .ok a
  | .error issue => .error [⟨[name], issue⟩]

def nested (decode : Json → Decoded α) (name : Text) (v : Json) : Decoded α :=
  match decode v with
  | .ok a => .ok a
  | .error found => .error (found.map (Finding.under name))

def required (decode : Text → Json → Decoded α) (members : List (Text × Json)) (name : Text) :
    Decoded α :=
  match members.lookup name with
  | some v => decode name v
  | none => .error [⟨[name], .missing⟩]

/-- The member with a name, or the value that stands for its absence. -/
def optional (decode : Text → Json → Decoded α) (members : List (Text × Json)) (name : Text)
    (default : α) : Decoded α :=
  match members.lookup name with
  | some v => decode name v
  | none => .ok default

def object (model : Text) (v : Json) : Decoded (List (Text × Json)) :=
  match v.asObject? with
  | some members => .ok members
  | none => .error [⟨[], .notModel model⟩]

end Decoding

end LocaleGen
