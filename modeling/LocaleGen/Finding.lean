import LocaleGen.Text.Basic

/-!
# Findings

A `Finding` says that a value of structured data is not what its place asks for: where it stands and
what the `Issue` with it is.
-/

namespace LocaleGen

/-- A text in which half pairs of surrogates show as three replacement characters each. -/
def Text.visible (t : Text) : Text :=
  t.flatMap fun c => if c.isSurrogate then List.replicate 3 (CodePoint.ofChar '\uFFFD') else [c]

/-- What is wrong with a value. -/
inductive Issue where
  | missing
  | notText
  | unencodable
  | notObject
  | notInteger
  | fractional
  | notFinite
  | unreadableInteger
  | oversizedInteger
  | notTruth
  | unreadableTruth
  | notNumber
  | unreadableNumber
  | notModel (model : Text)
  | rejected (reason : Text)
  deriving DecidableEq

namespace Issue

/-- The short name of an issue. -/
def tag (i : Issue) : Text :=
  match i with
  | missing => "missing"
  | notText => "string_type"
  | unencodable => "string_unicode"
  | notObject => "dict_type"
  | notInteger => "int_type"
  | fractional => "int_from_float"
  | notFinite => "finite_number"
  | unreadableInteger => "int_parsing"
  | oversizedInteger => "int_parsing_size"
  | notTruth => "bool_type"
  | unreadableTruth => "bool_parsing"
  | notNumber => "float_type"
  | unreadableNumber => "float_parsing"
  | notModel _ => "model_type"
  | rejected _ => "value_error"

/-- What a report says of an issue. -/
def message (i : Issue) : Text :=
  match i with
  | missing => "Field required"
  | notText => "Input should be a valid string"
  | unencodable => "Input should be a valid string, unable to parse raw data as a unicode string"
  | notObject => "Input should be a valid dictionary"
  | notInteger => "Input should be a valid integer"
  | fractional => "Input should be a valid integer, got a number with a fractional part"
  | notFinite => "Input should be a finite number"
  | unreadableInteger => "Input should be a valid integer, unable to parse string as an integer"
  | oversizedInteger => "Unable to parse input string as an integer, exceeded maximum size"
  | notTruth => "Input should be a valid boolean"
  | unreadableTruth => "Input should be a valid boolean, unable to interpret input"
  | notNumber => "Input should be a valid number"
  | unreadableNumber => "Input should be a valid number, unable to parse string as a number"
  | notModel model => "Input should be a valid dictionary or instance of " ++ model
  | rejected reason => "Value error, " ++ reason

def forBytes (i : Issue) : Issue :=
  match i with
  | notText => unencodable
  | notNumber => unreadableNumber
  | notTruth => unreadableTruth
  | i => i

end Issue

/-- An issue and the path to the value that has it. -/
structure Finding where
  path : List Text
  issue : Issue
  deriving DecidableEq

namespace Finding

def under (name : Text) (f : Finding) : Finding := { f with path := name :: f.path }

def location (f : Finding) : Text := Text.join "." (f.path.map Text.visible)

end Finding

end LocaleGen
