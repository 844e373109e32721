import LocaleGen.Binary64.Shortest
import LocaleGen.Json.Value
import LocaleGen.Text.Quoted

/-!
# Display of values

`display` is the text of a value in a report: a text as it is, every other value as `showValue`
shows it. Inside a list or an object texts are quoted.
-/

namespace LocaleGen.Json

mutual

def showValue (v : Json) : Text :=
  match v with
  | null => "None"
  | bool b => if b then "True" else "False"
  | int i => Text.ofInt i
  | float x => x.render
  | text t => t.quoted
  | list items => "[" ++ showItems items ++ "]"
  | object members => r"{" ++ showMembers members ++ r"}"

def showItems (items : List Json) : Text :=
  match items with
  | [] => []
  | v :: rest =>
    match rest with
    | [] => showValue v
    | _ :: _ => showValue v ++ ", " ++ showItems rest

def showMembers (members : List (Text × Json)) : Text :=
  match members with
  | [] => []
  | (name, v) :: rest =>
    let first := name.quoted ++ ": " ++ showValue v
    match rest with
    | [] => first
    | _ :: _ => first ++ ", " ++ showMembers rest

end

def display (v : Json) : Text :=
  match v with
  | text t => t
  | v => showValue v

end LocaleGen.Json
