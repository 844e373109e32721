import LocaleGen.Cause
import LocaleGen.Unicode.Case

/-!
# Names for keys

How the keys of a document become names in the generated source:

* a section key that is a reserved word, in any case, gets `sectionSuffix`; with its first character
  in upper case it is the type name, and that with its first character in lower case the field name;
* a phrase key that is a reserved word, in exactly this case, gets `memberSuffix` and is the
  accessor name.

Nothing else is changed, so a key that leads to no identifier is refused, as is a second key that
leads to a name given before. `resolveSections` and `resolveMembers` do this for all keys in their
order and report the first key that is at fault.
-/

namespace LocaleGen.Naming

def sectionSuffix : Text := "Section"

def memberSuffix : Text := "_"

def isReserved (reserved : List Text) (name : Text) : Bool :=
  reserved.any fun word => Text.equalsIgnoringCase name word

/-- A section key with the suffix that a reserved word needs. -/
def adjusted (reserved : List Text) (key : Text) : Text :=
  if isReserved reserved key then key ++ sectionSuffix else key

def typeName (reserved : List Text) (key : Text) : Except Cause Text :=
  if key = [] then .error .emptySectionKey else .ok (adjusted reserved key).upperFirst

def fieldName (type : Text) : Except Cause Text :=
  if type = [] then .error .emptyTypeName else .ok type.lowerFirst

def memberName (reserved : List Text) (key : Text) : Except Cause Text :=
  if key = [] then .error .emptyPhraseKey
  else .ok (if key ∈ reserved then key ++ memberSuffix else key)

/-- The name itself if it passes, else the refusal of the key that led to it. -/
def ensure (allowed : Text → Bool) (key name : Text) : Except Cause Text :=
  if allowed name then .ok name else .error (.notIdentifier key name)

structure SectionNames where
  key : Text
  typeName : Text
  fieldName : Text
  deriving DecidableEq

/-- The rules that names are held to. -/
structure Rules where
  reserved : List Text
  isIdentifier : Text → Bool
  isTypeName : Text → Bool

def sectionNames (rules : Rules) (key : Text) : Except Cause SectionNames := do
  let type ← ensure rules.isTypeName key (← typeName rules.reserved key)
  let field ← ensure rules.isIdentifier key (← fieldName type)
  .ok ⟨key, type, field⟩

/-- The names of the sections that come after `before`, the latest of which stands first. -/
def resolveSectionsAfter (rules : Rules) (before : List SectionNames) (keys : List Text) :
    Except Cause (List SectionNames) :=
  match keys with
  | [] => .ok []
  | key :: rest => do
    let names ← sectionNames rules key
    match before.find? fun earlier => earlier.typeName = names.typeName with
    | some earlier => .error (.typeCollision earlier.key key names.typeName)
    | none => .ok (names :: (← resolveSectionsAfter rules (names :: before) rest))

def resolveSections (rules : Rules) (keys : List Text) : Except Cause (List SectionNames) :=
  resolveSectionsAfter rules [] keys

def accessorName (rules : Rules) (key : Text) : Except Cause Text := do
  ensure rules.isIdentifier key (← memberName rules.reserved key)

/-- The accessor names of the phrases that come after those named `before`. -/
def resolveMembersAfter (rules : Rules) (sectionKey : Text) (before : List Text)
    (keys : List Text) : Except Cause (List Text) :=
  match keys with
  | [] => .ok []
  | key :: rest => do
    let name ← accessorName rules key
    if name ∈ before then .error (.memberCollision sectionKey key name)
    else .ok (name :: (← resolveMembersAfter rules sectionKey (name :: before) rest))

def resolveMembers (rules : Rules) (sectionKey : Text) (keys : List Text) :
    Except Cause (List Text) :=
  resolveMembersAfter rules sectionKey [] keys

end LocaleGen.Naming
