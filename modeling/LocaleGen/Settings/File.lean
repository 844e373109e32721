import LocaleGen.FileTree
import LocaleGen.Settings.Basic
import LocaleGen.Text.Stream
import LocaleGen.Yaml.Value

/-!
# Settings files

Settings come from a file, which need not be there, and from values that replace those of the file.
A `SettingsCache` keeps what was loaded last; a load that fails leaves it as it was.
-/

namespace LocaleGen

variable [NestingLimits]

structure SettingsSource where
  path : Path
  shown : Text

namespace SettingsSource

def usualName : Text := "nstackgen.yaml"

/-- The named file, or the usual one in the working directory `root`. -/
def ofName (root : Text) (name : Option Text) : SettingsSource :=
  match name with
  | some (c :: rest) =>
    let path := Path.ofText (c :: rest)
    ⟨path, path.render⟩
  | _ => ⟨Path.ofText usualName, root ++ "/" ++ usualName⟩

def bytes? (source : SettingsSource) (tree : FileTree) : Except Fault (Option Bytes) := do
  match ← tree.find? source.path with
  | none => .ok none
  | some .directory => .error (.file (.isDirectory source.shown))
  | some (.file bytes) => .ok (some bytes)

/-- The members of the mapping in a file. A value that is empty counts as no members. -/
def membersIn (source : SettingsSource) (bytes : Bytes) :
    Except Fault (List (Yaml.Value × Yaml.Value)) :=
  let (t, fault) := Incoming.pieces bytes
  match Yaml.Value.read t (fault.map .undecodable) with
  | .error (.meaningless f) | .error (.brokenOff f) => .error f
  | .error p => .error (.cause (.settingsNotYaml source.shown p.describe))
  | .ok (.mapping members) => .ok members
  | .ok v => if v.isTruthy then .error (.cause (.settingsNotMapping source.shown)) else .ok []

def members (source : SettingsSource) (tree : FileTree) :
    Except Fault (List (Yaml.Value × Yaml.Value)) := do
  match ← source.bytes? tree with
  | none => .ok []
  | some bytes =>
    let members ← source.membersIn bytes
    if Yaml.Value.hasTextKeys members then .ok members
    else .error (.type "keywords must be strings")

end SettingsSource

namespace Settings

/-- The members with some of them replaced; a null replaces nothing. -/
def override (members overrides : List (Text × Json)) : List (Text × Json) :=
  (Dict.ofList (members ++ overrides.filter fun m => !m.2.isNull)).entries

/-- Settings are members of mappings that are members themselves, so further in nothing counts. -/
def settingsDepth : Nat := 2

/-- Whether bytes that encode no text are at the end of a path, unless something else is there
instead. -/
def isRaw (members : List (Yaml.Value × Yaml.Value)) (overrides : List (Text × Json))
    (path : List Text) : Bool :=
  let isReplaced := overrides.any fun m => path.head? = some m.1 && !m.2.isNull
  !isReplaced && (((Yaml.Value.mapping members).at? path).any Yaml.Value.isRaw)

/-- Refuses values that name the file, which is named already. -/
def checkOverrides (overrides : List (Text × Json)) : Except Fault Unit :=
  if overrides.any fun m => m.1 = Text.ofString "config_path" then
    .error (.type "load_settings() got multiple values for argument 'config_path'")
  else .ok ()

/-- The settings of a file, with the given values instead of those in the file. -/
def load (tree : FileTree) (source : SettingsSource) (overrides : List (Text × Json)) :
    Except Fault Settings := do
  checkOverrides overrides
  let members ← source.members tree
  match decode (override (Yaml.Value.toMembers settingsDepth members) overrides) with
  | .ok s => .ok s
  | .error [] => .ok .default
  | .error (first :: rest) =>
    match Fault.ofFindings (first :: rest) with
    | .invalid _ =>
      let issue := if isRaw members overrides first.path then first.issue.forBytes else first.issue
      .error (.cause (.invalidSetting first.location issue.message source.shown))
    | fault => .error fault

end Settings

/-! ## What was loaded last -/

/-- The settings that were loaded last, if any. -/
structure SettingsCache where
  stored : Option Settings

namespace SettingsCache

def empty : SettingsCache := ⟨none⟩

def load (cache : SettingsCache) (tree : FileTree) (source : SettingsSource)
    (overrides : List (Text × Json)) : SettingsCache × Except Fault Settings :=
  match Settings.load tree source overrides with
  | .ok s => (⟨some s⟩, .ok s)
  | .error f => (cache, .error f)

/-- The settings that are kept, or else those of the usual file. -/
def get (cache : SettingsCache) (tree : FileTree) (root : Text) :
    SettingsCache × Except Fault Settings :=
  match cache.stored with
  | some s => (cache, .ok s)
  | none => cache.load tree (.ofName root none) []

end SettingsCache

end LocaleGen
