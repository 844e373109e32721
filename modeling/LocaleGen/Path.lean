import LocaleGen.Fault

/-!
# Paths

A `Path` is a root and the names below it. Reading one drops empty and `.` components and keeps
`..`, so two texts that differ in these alone are the same path. Exactly two slashes at the front
are a root of their own.
-/

namespace LocaleGen

/-- Where a path starts. -/
inductive PathRoot where
  | relative
  | slash
  | doubleSlash
  deriving DecidableEq, Repr

/-- A root and the names below it. -/
structure Path where
  root : PathRoot
  names : List Text
  deriving DecidableEq

namespace Path

/-- The root of a written path: two slashes count as such only if no third one follows. -/
def rootOf (t : Text) : PathRoot :=
  let slashes := (t.takeWhile (· = CodePoint.ofChar '/')).length
  if slashes = 0 then .relative else if slashes = 2 then .doubleSlash else .slash

def isName (t : Text) : Bool := !t.isEmpty && t != Text.ofString "."

def ofText (t : Text) : Path := ⟨rootOf t, (t.splitOn '/').filter isName⟩

def PathRoot.text (r : PathRoot) : Text :=
  match r with
  | .relative => []
  | .slash => "/"
  | .doubleSlash => "//"

def render (p : Path) : Text :=
  if p.root = .relative ∧ p.names = [] then "." else PathRoot.text p.root ++ Text.join "/" p.names

def name (p : Path) : Text := p.names.getLast?.getD []

def parent (p : Path) : Path := { p with names := p.names.dropLast }

def child (p : Path) (name : Text) : Path := { p with names := p.names ++ [name] }

/-- A path below this one; a rooted path stays itself. -/
def append (p q : Path) : Path :=
  if q.root = .relative then { p with names := p.names ++ q.names } else q

/-- What precedes the last point of a name, if the point is neither its first nor its last
character. -/
def stem (name : Text) : Text :=
  let suffix := (name.reverse.takeWhile (· ≠ CodePoint.ofChar '.')).length
  if suffix = 0 ∨ name.length ≤ suffix + 1 then name else name.take (name.length - suffix - 1)

def replaceExtension (p : Path) (extension : Text) : Path :=
  p.parent.child (stem p.name ++ extension)

def withExtension (p : Path) (extension : Text) : Except Fault Path :=
  if p.name = [] then .error (.value ("PosixPath(" ++ p.render.quoted ++ ") has an empty name"))
  else .ok (p.replaceExtension extension)

end Path

end LocaleGen
