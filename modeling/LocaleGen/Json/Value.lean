import LocaleGen.Binary64.Basic
import LocaleGen.Text.Basic

/-!
# JSON values

Integers are kept apart from fractions, and an object keeps its members in order. The reader writes
no name twice into an object.
-/

namespace LocaleGen

/-- A JSON value. -/
inductive Json where
  | null
  | bool (b : Bool)
  | int (i : Int)
  | float (x : Binary64)
  | text (t : Text)
  | list (items : List Json)
  | object (members : List (Text × Json))

namespace Json

instance : Inhabited Json := ⟨null⟩

instance : Coe Text Json := ⟨text⟩

def member? (v : Json) (name : Text) : Option Json :=
  match v with
  | object members => members.lookup name
  | _ => none

def isNull (v : Json) : Bool :=
  match v with
  | null => true
  | _ => false

def asText? (v : Json) : Option Text :=
  match v with
  | text t => some t
  | _ => none

def asList? (v : Json) : Option (List Json) :=
  match v with
  | list items => some items
  | _ => none

def asObject? (v : Json) : Option (List (Text × Json)) :=
  match v with
  | object members => some members
  | _ => none

/-- Neither null, false, zero nor empty. -/
def isTruthy (v : Json) : Bool :=
  match v with
  | null => false
  | bool b => b
  | int i => i != 0
  | float x => !x.equals (.zero false)
  | text t => !t.isEmpty
  | list items => !items.isEmpty
  | object members => !members.isEmpty

def record (members : List (String × Json)) : Json :=
  object (members.map fun m => (Text.ofString m.1, m.2))

def ofText? (t : Option Text) : Json :=
  match t with
  | some t => text t
  | none => null

end Json

end LocaleGen

/-! ## Equality of values

`agrees` compares values the way filters do: numbers by value, whatever their form, with `true` as
one and `false` as zero; lists item by item; objects without regard to order. A number that is none
agrees with nothing.
-/

namespace LocaleGen.Json

/-- The integer that a truth value or an integer stands for. -/
def wholeNumber? (v : Json) : Option Int :=
  match v with
  | bool b => some (if b then 1 else 0)
  | int i => some i
  | _ => none

/-- Equality of two numbers of any form, false for anything else. -/
def agreesAsNumber (v w : Json) : Bool :=
  match v.wholeNumber?, w.wholeNumber? with
  | some i, some j => i = j
  | some i, none =>
    match w with
    | float y => y.toInt? = some i
    | _ => false
  | none, some j =>
    match v with
    | float x => x.toInt? = some j
    | _ => false
  | none, none =>
    match v, w with
    | float x, float y => x.equals y
    | _, _ => false

mutual

/-- Equality of values. -/
def agrees (v w : Json) : Bool :=
  match v with
  | null => w.isNull
  | text t => w.asText? = some t
  | list items =>
    match w with
    | list others => agreeItems items others
    | _ => false
  | object members =>
    match w with
    | object others => members.length = others.length && agreeMembers members others
    | _ => false
  | bool b => agreesAsNumber (bool b) w
  | int i => agreesAsNumber (int i) w
  | float x => agreesAsNumber (float x) w

def agreeItems (items others : List Json) : Bool :=
  match items, others with
  | [], [] => true
  | v :: items, w :: others => agrees v w && agreeItems items others
  | _, _ => false

def agreeMembers (members others : List (Text × Json)) : Bool :=
  match members with
  | [] => true
  | (name, v) :: rest =>
    (match others.lookup name with
     | some w => agrees v w
     | none => false) && agreeMembers rest others

end

end LocaleGen.Json
