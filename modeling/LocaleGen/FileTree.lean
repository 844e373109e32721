import LocaleGen.Dict
import LocaleGen.Path

/-!
# File trees

A `FileTree` is all that a file system has, files with their bytes and directories, and the working
directory that relative paths start from. The operations fail the way a file system does, and say
which path they were given; one that fails leaves the tree as it was, unless it says otherwise.

`writeText` replaces a file as a whole. The new content goes into a temporary file beside the target
first, which then takes the place of the target, so at no point is there half a file.
-/

namespace LocaleGen

/-- What a name can stand for. -/
inductive FileEntry where
  | file (content : Bytes)
  | directory
  deriving DecidableEq

/-- Files and directories by the names that lead to them from the root. The working directory `here`
and those that it is in need no entries of their own. -/
structure FileTree where
  entries : Dict (List Text) FileEntry
  here : List Text

namespace FileTree

def empty : FileTree := ⟨.empty, ["home"]⟩

def get? (tree : FileTree) (place : List Text) : Option FileEntry :=
  if place <+: tree.here then some .directory else tree.entries.get? place

def insert (tree : FileTree) (place : List Text) (e : FileEntry) : FileTree :=
  { tree with entries := tree.entries.insert place e }

def erase (tree : FileTree) (place : List Text) : FileTree :=
  { tree with entries := tree.entries.filter fun p => p ≠ place }

def put (tree : FileTree) (names : List Text) (e : FileEntry) : FileTree :=
  tree.insert (tree.here ++ names) e

/-- The tree without an entry below the working directory. -/
def drop (tree : FileTree) (names : List Text) : FileTree := tree.erase (tree.here ++ names)

/-! ## Finding a place -/

def up : Text := ".."

/-- A surrogate that stands for a byte of a file name. -/
def isByte (c : CodePoint) : Bool := 0xDC80 ≤ c.val && c.val ≤ 0xDCFF

def size (t : Text) : Nat :=
  (t.map fun c => if isByte c then 1 else (Utf8.encodeChar c).length).foldl (· + ·) 0

def nameLimit : Nat := 255
def pathLimit : Nat := 4095

/-- The place that a name leads to from a directory. Above the root there is the root again. -/
def next (place : List Text) (name : Text) : List Text :=
  if name = up then place.dropLast else place ++ [name]

/-- The place that names lead to from another one, if everything on the way is a directory. The last
name need not be there. -/
def walk (tree : FileTree) (shown : Text) (place names : List Text) :
    Except FileError (List Text) :=
  match names with
  | [] => .ok place
  | name :: rest =>
    match tree.get? place with
    | none => .error (.notFound shown)
    | some (.file _) => .error (.notDirectory shown)
    | some .directory =>
      if nameLimit < size name then .error (.nameTooLong shown)
      else tree.walk shown (next place name) rest

/-- A surrogate that stands for no byte of a file name. -/
def isForeign (c : CodePoint) : Bool := c.isSurrogate && !isByte c

def checkPath (p : Path) : Except Fault Unit :=
  let shown := p.render
  match shown.dropWhile fun c => !isForeign c with
  | c :: rest =>
    .error (.unencodable .utf8 (shown.takeWhile fun c => !isForeign c).length
      ((c :: rest).takeWhile CodePoint.isSurrogate))
  | [] => if CodePoint.ofChar '\x00' ∈ shown then .error (.value "embedded null byte") else .ok ()

def start (tree : FileTree) (p : Path) : List Text := if p.root = .relative then tree.here else []

def locate (tree : FileTree) (p : Path) : Except Fault (List Text) := do
  checkPath p
  if pathLimit < size p.render then .error (.file (.nameTooLong p.render))
  else (tree.walk p.render (tree.start p) p.names).mapError .file

def lookup (tree : FileTree) (p : Path) : Except Fault FileEntry := do
  match tree.get? (← tree.locate p) with
  | some e => .ok e
  | none => .error (.file (.notFound p.render))

def isDirectory (tree : FileTree) (p : Path) : Bool :=
  match tree.lookup p with
  | .ok .directory => true
  | _ => false

/-- What a path leads to, if anything. A path that no file can have leads to nothing; one with names
that are too long is refused. -/
def find? (tree : FileTree) (p : Path) : Except Fault (Option FileEntry) :=
  match tree.lookup p with
  | .ok e => .ok (some e)
  | .error (.file (.nameTooLong shown)) => .error (.file (.nameTooLong shown))
  | .error _ => .ok none

def isFile (tree : FileTree) (p : Path) : Except Fault Bool := do
  match ← tree.find? p with
  | some (.file _) => .ok true
  | _ => .ok false

/-! ## Reading -/

def readBytes (tree : FileTree) (p : Path) : Except Fault Bytes := do
  match ← tree.lookup p with
  | .file content => .ok content
  | .directory => .error (.file (.isDirectory p.render))

/-- The text of a file, each line end read as a line feed. -/
def readText (tree : FileTree) (p : Path) : Except Fault Text := do
  let t ← (Utf8.decode (← tree.readBytes p)).mapError .undecodable
  .ok t.normalizeNewlines

/-! ## Writing -/

def makeDirectory (tree : FileTree) (p : Path) : Except Fault FileTree := do
  let place ← tree.locate p
  match tree.get? place with
  | none => .ok (tree.insert place .directory)
  | some _ => .error (.file (.exists p.render))

def ensureDirectory (tree : FileTree) (p : Path) : Except Fault FileTree :=
  match tree.makeDirectory p with
  | .ok tree' => .ok tree'
  | .error e => if tree.isDirectory p then .ok tree else .error e

/-- Makes a directory and those above it, as many as `depth`. The directories that could be made
stay, whatever comes after. -/
def makeDirectories (depth : Nat) (tree : FileTree) (p : Path) : FileTree × Except Fault Unit :=
  match depth, tree.makeDirectory p with
  | _, .ok tree' => (tree', .ok ())
  | depth + 1, .error (.file (.notFound _)) =>
    match makeDirectories depth tree p.parent with
    | (tree', .error e) => (tree', .error e)
    | (tree', .ok ()) =>
      match tree'.ensureDirectory p with
      | .ok tree'' => (tree'', .ok ())
      | .error e => (tree', .error e)
  | _, .error e => if tree.isDirectory p then (tree, .ok ()) else (tree, .error e)

def makeParents (tree : FileTree) (p : Path) : FileTree × Except Fault Unit :=
  makeDirectories p.names.length tree p.parent

/-- Puts bytes at the end of a file, which need not be there yet. -/
def append (tree : FileTree) (p : Path) (bytes : Bytes) : Except Fault FileTree := do
  let place ← tree.locate p
  match tree.get? place with
  | some (.file content) => .ok (tree.insert place (.file (content ++ bytes)))
  | none => .ok (tree.insert place (.file bytes))
  | some .directory => .error (.file (.isDirectory p.render))

/-! ## Replacing a file as a whole -/

def names (tree : FileTree) (directory : List Text) : List Text :=
  let above := (List.range (tree.here.length + 1)).map tree.here.take
  (tree.entries.keys ++ above).filterMap fun place =>
    if place.dropLast = directory then place.getLast? else none

/-- A name that is not taken: the given one if possible, else a longer one than any that is. -/
def freshName (taken : List Text) (name : Text) : Text :=
  if name ∈ taken then
    name ++ List.replicate ((taken.map List.length).foldl max 0 + 1) (CodePoint.ofChar '~')
  else name

def temporaryName (target : Text) : Text := "." ++ target ++ ".<tmp>"

/-- As many characters of the name of a temporary file are chosen at random. -/
def randomCount : Nat := 8

def temporaryStart (target : Text) : Text := "." ++ target ++ "."

/-- A file in a directory by its path from the root, which has two slashes if that of the target
has. -/
def absolute (target : Path) (directory : List Text) (name : Text) : Path :=
  ⟨if target.root = .doubleSlash then .doubleSlash else .slash, directory ++ [name]⟩

def HasRoom (target : Path) (directory : List Text) : Prop :=
  size (temporaryStart target.name) + randomCount ≤ nameLimit ∧
    size (absolute target directory (temporaryStart target.name)).render + randomCount ≤ pathLimit

instance (target : Path) (directory : List Text) : Decidable (HasRoom target directory) :=
  inferInstanceAs (Decidable (_ ∧ _))

/-- A path from the root as messages show it, with `root` for the working directory. -/
def shown (tree : FileTree) (root : Text) (p : Path) : Text :=
  if p.root = .slash ∧ tree.here <+: p.names then
    Text.join "/" (root :: p.names.drop tree.here.length)
  else p.render

/-- Moves the file at a place to where a path leads. -/
def replace (tree : FileTree) (source : List Text) (shown : Text) (target : Path) :
    Except Fault FileTree := do
  if target.names = [] ∨ target.name = up then .error (.file (.busy shown target.render))
  else
    let place ← tree.locate target
    match tree.get? source, tree.get? place with
    | some (.file content), some (.file _) | some (.file content), none =>
      .ok ((tree.erase source).insert place (.file content))
    | _, _ => .error (.file (.notReplaceable shown target.render))

/-- Writes a temporary file at a place and moves it to its target; the temporary file never
stays. -/
def replaceVia (tree : FileTree) (temporary : List Text) (shown : Text)
    (target : Path) (content : Text) : FileTree × Except Fault Unit :=
  let created := tree.insert temporary (.file [])
  match Utf8.encode content with
  | .error (position, run) => (created.erase temporary, .error (.unencodable .utf8 position run))
  | .ok bytes =>
    let written := created.insert temporary (.file bytes)
    match written.replace temporary shown target with
    | .ok tree' => (tree', .ok ())
    | .error e => (written.erase temporary, .error e)

/-- Writes a text to a path, all of it or nothing. Directories on the way are made. -/
def writeText (tree : FileTree) (root : Text) (target : Path) (content : Text) :
    FileTree × Except Fault Unit :=
  match tree.makeParents target with
  | (tree', .error e) => (tree', .error e)
  | (tree', .ok ()) =>
    match checkPath target, tree'.locate target.parent with
    | .error e, _ | _, .error e => (tree', .error e)
    | .ok (), .ok directory =>
      if HasRoom target directory then
        let name := freshName (tree'.names directory) (temporaryName target.name)
        tree'.replaceVia (directory ++ [name]) (tree'.shown root (absolute target directory name))
          target content
      else
        let name := temporaryName target.name
        (tree', .error (.file (.nameTooLong (tree'.shown root (absolute target directory name)))))

/-- All files below the working directory with their paths, in the order of the paths. -/
def files (tree : FileTree) : List (Text × Bytes) :=
  let found := tree.entries.entries.filterMap fun e =>
    match e.2 with
    | .file content =>
      if tree.here <+: e.1 then some (Text.join "/" (e.1.drop tree.here.length), content) else none
    | .directory => none
  found.mergeSort fun a b => !Text.lt b.1 a.1

end FileTree

end LocaleGen
