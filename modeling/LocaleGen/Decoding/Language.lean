import LocaleGen.Decoding.Object
import LocaleGen.Decoding.Scalar
import LocaleGen.Language

/-!
# Decoding the language index

An entry of the index from structured data. The ids and the locale have to be there; names that are
not known are passed over.
-/

namespace LocaleGen

open Decoding

/-- The language that a value describes. -/
def Language.decode (v : Json) : Decoded Language := do
  let members ← object "Language" v
  (.ok Language.mk : Decoded _)
    |> andThen (required (scalar integer) members "id")
    |> andThen (optional (scalar text) members "name" [])
    |> andThen (required (scalar text) members "locale")
    |> andThen (optional (scalar text) members "direction" "LRM")
    |> andThen (optional (scalar truth) members "is_default" false)
    |> andThen (optional (scalar truth) members "is_best_fit" false)

/-- The entry that a value describes. -/
def IndexEntry.decode (v : Json) : Decoded IndexEntry := do
  let members ← object "LocalizeIndex" v
  (.ok IndexEntry.mk : Decoded _)
    |> andThen (required (scalar integer) members "id")
    |> andThen (optional (scalar optionalText) members "url" none)
    |> andThen (optional (scalar optionalText) members "last_updated_at" none)
    |> andThen (optional (scalar truth) members "should_update" false)
    |> andThen (required (nested Language.decode) members "language")

end LocaleGen
