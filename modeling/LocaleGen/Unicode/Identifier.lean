import LocaleGen.Unicode.Basic
import LocaleGen.Unicode.IdentifierTable

/-!
# Unicode identifiers

The default identifier syntax: a start character, then start or inner characters. `isIdentifier` is
the whole test; which of these words a language takes for keywords is the business of its dialect.
-/

namespace LocaleGen

namespace CodePoint

def isIdentifierStart (c : CodePoint) : Bool := Unicode.inRanges Unicode.identifierStart c.val

def isIdentifierPart (c : CodePoint) : Bool :=
  c.isIdentifierStart || Unicode.inRanges Unicode.identifierInner c.val

end CodePoint

def Text.isIdentifier (t : Text) : Bool :=
  match t with
  | [] => false
  | c :: rest => c.isIdentifierStart && rest.all CodePoint.isIdentifierPart

end LocaleGen
