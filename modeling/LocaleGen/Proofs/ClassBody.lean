import LocaleGen.Proofs.Declaration
import Mathlib

/-!
# The body of a class

The class of a section has a body that runs line by line when its module is imported. Its lines
mention three kinds of names (`ClassLine`): a decorator is a name that is evaluated in the scope of
the class, a definition binds one in it, and what is looked up on the object is found when an
accessor is used. Names are compared in the form that the parser gives them, which leaves ASCII as
it is.

A decorator that the class has bound before is captured: an accessor is evaluated in its place. The
accessors of a section have names that no line of it needs, `property` apart, so a body runs just if
no accessor but the last is a `property`: `Artifact.classBody_runs`.
-/

namespace LocaleGen

open Text Layout

namespace Python

/-! ## Lines and what they do -/

/-- What a line of the body of a class does with a name. -/
inductive ClassLine where
  | decorator (name : Text)
  | definition (name : Text)
  | lookup (name : Text)
  deriving DecidableEq

def classLine? (line : Text) : Option ClassLine :=
  match lexis.nameBetween? ("    @", "") line, lexis.nameBetween? ("    def ", "(") line with
  | some name, _ => some (.decorator name)
  | none, some name => some (.definition name)
  | none, none => (lexis.nameBetween? ("        return self.", "(") line).map .lookup

def classLines (body : Text) : List ClassLine := (body.splitOn '\n').filterMap classLine?

/-- The forms of the names that a class has bound when lines have run after the names `bound`, or
the decorator that is captured. -/
def runClass (form : Text → Text) (bound : List Text) (lines : List ClassLine) :
    Except Text (List Text) :=
  match lines with
  | [] => .ok bound
  | .decorator name :: rest => if form name ∈ bound then .error name else runClass form bound rest
  | .definition name :: rest => runClass form (form name :: bound) rest
  | .lookup _ :: rest => runClass form bound rest

def decoratorName : Text := "property"

def initName : Text := "__init__"

/-- What the class of a section inherits and its accessors use: each of them looks up `get`, which
looks up `section_key`, both on the object. -/
def inheritedNames : List Text := words ["get", "section_key"]

def accessorLines (name : Text) : List ClassLine :=
  [.decorator decoratorName, .definition name, .lookup "get"]

/-! ## The lines of a section -/

theorem splitOn_append_line {line : Text} (h : CodePoint.ofChar '\n' ∉ line) (t : Text) :
    Text.splitOn (line ++ ("\n" ++ t)) '\n' = line :: Text.splitOn t '\n' := by
  show Text.splitOn (line ++ CodePoint.ofChar '\n' :: t) '\n' = _
  rw [splitOn_append_cons, splitOn_of_notMem h]
  rfl

theorem splitOn_unlines {lines : List Text} (h : ∀ line ∈ lines, CodePoint.ofChar '\n' ∉ line) :
    Text.splitOn (unlines lines) '\n' = lines ++ [[]] := by
  induction lines with
  | nil => rfl
  | cons line lines ih =>
    obtain ⟨hline, hlines⟩ := List.forall_mem_cons.mp h
    rw [unlines_cons, splitOn_append_line hline, ih hlines, List.cons_append]

theorem noLineFeed_literal {t literal : Text} (h : stringLiteral t = .ok literal) :
    CodePoint.ofChar '\n' ∉ literal := by
  obtain rfl : literalOf t = literal := Except.ok.inj ((stringLiteral_eq t).symm.trans h)
  intro hmem
  cases literalOf_notBarred t _ hmem

theorem isNamePart_of_isIdentifier {name : Text} (h : isIdentifier name = true) :
    name ≠ [] ∧ ∀ c ∈ name, lexis.isNamePart c = true := by
  obtain ⟨hne, hparts⟩ := all_of_isIdentifier h
  exact ⟨hne, List.all_eq_true.mp hparts⟩

theorem noLineFeed_name {name : Text} (h : isIdentifier name = true) :
    CodePoint.ofChar '\n' ∉ name := by
  intro hmem
  have hpart := (isNamePart_of_isIdentifier h).2 _ hmem
  revert hpart
  decide +kernel

/-- The line that defines an accessor. -/
theorem classLine?_definition {name : Text} (h : isIdentifier name = true) :
    classLine? ("    def " ++ name ++ "(self) -> str:") = some (.definition name) := by
  obtain ⟨hne, hparts⟩ := isNamePart_of_isIdentifier h
  have hstop : lexis.isNamePart '(' = false := by decide +kernel
  have hdecorator : lexis.nameBetween? ("    @", "")
    ("    def " ++ name ++ "(self) -> str:") = none := rfl
  have hdefinition : lexis.nameBetween? ("    def ", "(")
      ("    def " ++ name ++ "(self) -> str:") = some name := by
    rw [List.append_assoc, Lexis.nameBetween?, dropStart?_append]
    show (lexis.readName (name ++ CodePoint.ofChar '(' :: _)).bind _ = _
    rw [readName_append hne hparts hstop]
    rfl
  rw [classLine?, hdecorator, hdefinition]

/-- The line that an accessor returns what it finds on. -/
theorem classLine?_lookup (arguments : Text) :
    classLine? ("        return self.get(" ++ arguments) = some (.lookup "get") := by
  have hne : Text.ofString "get" ≠ [] := by decide
  have hparts : ∀ c ∈ Text.ofString "get", lexis.isNamePart c = true := by decide +kernel
  have hstop : lexis.isNamePart '(' = false := by decide +kernel
  have hdecorator : lexis.nameBetween? ("    @", "")
    ("        return self.get(" ++ arguments) = none := rfl
  have hdefinition : lexis.nameBetween? ("    def ", "(")
    ("        return self.get(" ++ arguments) = none := rfl
  have hlookup : lexis.nameBetween? ("        return self.", "(")
    ("        return self.get(" ++ arguments) =
      some (Text.ofString "get") := by
    have hwords : Text.ofString "        return self.get(" =
        "        return self." ++ (Text.ofString "get" ++ ("(" : Text)) := by decide +kernel
    have hline : "        return self.get(" ++ arguments =
        "        return self." ++ (Text.ofString "get" ++ CodePoint.ofChar '(' :: arguments) := by
      rw [hwords, List.append_assoc, List.append_assoc]
      rfl
    have hcall : Text.dropStart? (CodePoint.ofChar '(' :: arguments) "(" = some arguments :=
      dropStart?_append "(" arguments
    rw [hline, Lexis.nameBetween?, dropStart?_append]
    simp only [Option.bind_eq_bind, Option.bind_some, readName_append hne hparts hstop, hcall]
  rw [classLine?, hdecorator, hdefinition, hlookup]
  rfl

theorem classLine?_super (key : Text) :
    classLine? ("        super().__init__(" ++ key) = none := rfl

theorem classLine?_decorator :
    classLine? ("    @property" : Text) = some (.decorator decoratorName) := by decide +kernel

theorem classLine?_init :
    classLine? ("    def __init__(self) -> None:" : Text) = some (.definition initName) := by
  decide +kernel

theorem filterMap_memberLines {m : Member} (h : isIdentifier m.name = true) :
    (memberLines m).filterMap classLine? = accessorLines m.name := by
  have hblank : classLine? [] = none := rfl
  have hlookup : classLine? ("        return self.get(" ++ m.key ++ ", " ++ m.default ++ ")") =
      some (.lookup "get") := by
    rw [List.append_assoc, List.append_assoc, List.append_assoc]
    exact classLine?_lookup _
  simp only [memberLines, List.filterMap_cons, List.filterMap_nil, ofString_empty, hblank,
    classLine?_decorator,
    classLine?_definition h, hlookup]
  rfl

theorem sectionClass_eq (type keyLiteral : Text) (ms : List Member) :
    sectionClass type keyLiteral ms = "class _" ++ type ++ "(SectionKeyDelegate):" ++ ("\n" ++
      unlines (Text.ofString "    def __init__(self) -> None:" ::
        ("        super().__init__(" ++ keyLiteral ++ ")") ::
        ms.flatMap memberLines)) := by
  rw [sectionClass, List.cons_append, unlines_cons, List.cons_append, List.cons_append,
    List.nil_append]

/-- What the class of a section has after its first line, for accessors with names. -/
theorem classLines_accessors {keyLiteral : Text} {ms : List Member}
    (hkey : CodePoint.ofChar '\n' ∉ keyLiteral)
    (hms : ∀ m ∈ ms, isIdentifier m.name = true ∧ CodePoint.ofChar '\n' ∉ m.key ∧
      CodePoint.ofChar '\n' ∉ m.default) :
    classLines (unlines (Text.ofString "    def __init__(self) -> None:" ::
      ("        super().__init__(" ++ keyLiteral ++ ")") :: ms.flatMap memberLines)) =
        .definition initName :: (ms.map Member.name).flatMap accessorLines := by
  have hinit : CodePoint.ofChar '\n' ∉ ("    def __init__(self) -> None:" : Text) := by decide
  have hsuper : CodePoint.ofChar '\n' ∉ "        super().__init__(" ++ keyLiteral ++ ")" := by
    simp [hkey, show CodePoint.ofChar '\n' ∉ ("        super().__init__(" : Text) by decide,
      show CodePoint.ofChar '\n' ∉ (")" : Text) by decide]
  have hmembers : ∀ line ∈ ms.flatMap memberLines, CodePoint.ofChar '\n' ∉ line := by
    intro line hline
    obtain ⟨m, hm, hline⟩ := List.mem_flatMap.mp hline
    obtain ⟨hname, hk, hd⟩ := hms m hm
    have hfixed : ∀ t ∈ words ["", "    @property", "    def ", "(self) -> str:",
      "        return self.get(", ", ", ")"],
        CodePoint.ofChar '\n' ∉ t := by decide
    simp only [words, List.map_cons, List.map_nil, List.forall_mem_cons] at hfixed
    obtain ⟨hblank, hproperty, hdef, hself, hreturn, hcomma, hclose, -⟩ := hfixed
    simp only [memberLines, List.mem_cons, List.not_mem_nil, or_false] at hline
    rcases hline with rfl | rfl | rfl | rfl
    · exact hblank
    · exact hproperty
    · simp [hdef, hself, noLineFeed_name hname]
    · simp [hreturn, hcomma, hclose, hk, hd]
  rw [classLines, splitOn_unlines, List.filterMap_append]
  · have hsuper : classLine? ("        super().__init__(" ++ keyLiteral ++ ")") = none := by
      rw [List.append_assoc]
      exact classLine?_super _
    have haccessors : (ms.flatMap memberLines).filterMap classLine? =
        (ms.map Member.name).flatMap accessorLines := by
      rw [List.filterMap_flatMap, List.flatMap_map]
      exact List.flatMap_congr fun m hm => filterMap_memberLines (hms m hm).1
    simp only [List.filterMap_cons, classLine?_init, hsuper, haccessors]
    exact congrArg _ (List.append_nil _)
  · intro line hline
    simp only [List.mem_cons] at hline
    rcases hline with rfl | rfl | hline
    · exact hinit
    · exact hsuper
    · exact hmembers line hline

/-! ## Running -/

variable {form : Text → Text}

/-- Accessors are defined one after the other until the decorator of one of them is captured by
another before it. -/
theorem runClass_accessors {bound : List Text} (names : List Text)
    (hbound : form decoratorName ∉ bound) :
    runClass form bound (names.flatMap accessorLines) =
      if form decoratorName ∈ names.dropLast.map form then .error decoratorName
      else .ok ((names.map form).reverse ++ bound) := by
  induction names generalizing bound with
  | nil => simp [runClass]
  | cons name rest ih =>
    have hfirst : runClass form bound ((name :: rest).flatMap accessorLines) =
        runClass form (form name :: bound) (rest.flatMap accessorLines) := by
      simp [accessorLines, runClass, hbound]
    rw [hfirst]
    by_cases hname : form decoratorName = form name
    · cases rest with
      | nil => simp [runClass]
      | cons next rest => simp [accessorLines, runClass, hname]
    · rw [ih (by simp [hname, hbound])]
      cases rest with
      | nil => simp
      | cons next rest => simp [hname]

/-- In a form that leaves ASCII as it is, the initializer does not capture the decorator of the
first accessor. -/
theorem runClass_section (hform : ∀ t : Text, (∀ c ∈ t, c.isAscii = true) → form t = t)
    (names : List Text) :
    runClass form [] (.definition initName :: names.flatMap accessorLines) =
      if decoratorName ∈ names.dropLast.map form then .error decoratorName
      else .ok ((initName :: names).map form).reverse := by
  have hproperty : form decoratorName = decoratorName := hform _ (by decide)
  have hinit : form initName = initName := hform _ (by decide)
  have hbound : form decoratorName ∉ [form initName] := by
    rw [hproperty, hinit]
    decide
  rw [runClass, runClass_accessors _ hbound, hproperty, List.map_cons, List.reverse_cons]

/-! ## Names -/

theorem reserved_suffixed :
    ∀ word ∈ reserved, word ++ Naming.memberSuffix ∉ decoratorName :: inheritedNames := by
  decide +kernel

/-- What the accessors are called that the class of a section needs itself. -/
theorem accessorOf_spec (k : Text) :
    Naming.accessorOf Target.python.namingRules k ∉ inheritedNames ∧
      (Naming.accessorOf Target.python.namingRules k = decoratorName ↔ k = decoratorName) := by
  have hproperty : decoratorName ∉ reserved := by decide
  have hinherited : ∀ name ∈ inheritedNames, name ∈ reserved := by decide
  by_cases hk : k ∈ reserved
  · have haccessor : Naming.accessorOf Target.python.namingRules k =
      k ++ Naming.memberSuffix := if_pos hk
    have hsuffixed := reserved_suffixed k hk
    rw [List.mem_cons, not_or] at hsuffixed
    rw [haccessor]
    refine ⟨hsuffixed.2, fun h => absurd h hsuffixed.1, ?_⟩
    rintro rfl
    exact absurd hk hproperty
  · have haccessor : Naming.accessorOf Target.python.namingRules k = k := if_neg hk
    rw [haccessor]
    exact ⟨fun hmem => hk (hinherited k hmem), Iff.rfl⟩

theorem isAscii_accessorOf {k : Text} (h : ∀ c ∈ k, c.isAscii = true) :
    ∀ c ∈ Naming.accessorOf Target.python.namingRules k, c.isAscii = true := by
  have hsuffix : ∀ c ∈ Naming.memberSuffix, c.isAscii = true := by decide
  unfold Naming.accessorOf
  split
  · exact fun c hc => (List.mem_append.mp hc).elim (h c) (hsuffix c)
  · exact h

end Python

namespace Artifact

open Python

theorem names_of_members {target : Target} {phrases : Phrases} {ms : List Member}
    (h : List.Forall₂ (IsMember target) phrases.entries ms) :
    ms.map Member.name = phrases.keys.map (Naming.accessorOf target.namingRules) := by
  rw [Dict.keys, List.map_map, ← List.forall₂_eq_eq_eq, List.forall₂_map_left_iff,
    List.forall₂_map_right_iff]
  exact h.flip.imp fun m phrase hm => (Naming.accessorName_eq_ok hm.name).2.1

theorem exists_classBody {type key block : Text} {phrases : Phrases}
    (h : sectionBlock .python type key phrases = .ok block) :
    ∃ body, block = "class _" ++ type ++ "(SectionKeyDelegate):" ++ ("\n" ++ body) ∧
      classLines body = .definition initName ::
        (phrases.keys.map (Naming.accessorOf Target.python.namingRules)).flatMap accessorLines := by
  obtain ⟨names, ms, keyLiteral, -, hmembers, hkey, rfl⟩ := sectionBlock_eq_ok h
  refine ⟨_, sectionClass_eq type keyLiteral ms, ?_⟩
  rw [← names_of_members hmembers]
  refine classLines_accessors (noLineFeed_literal hkey) fun m hm => ?_
  obtain ⟨phrase, -, hphrase⟩ := exists_of_mem_left hmembers.flip hm
  exact ⟨(Naming.accessorName_eq_ok hphrase.name).2.2, noLineFeed_literal hphrase.key,
    noLineFeed_literal hphrase.default⟩

/-- The body of the class for a section defines one accessor for each key, decorated by `property`.
With names compared in a form that leaves ASCII as it is, the body runs until a decorator is
captured, which happens just if an accessor but the last has the form of `property`; among keys of
ASCII that is the key `property` itself. No accessor has the name of the initializer or of anything
that accessors look up, and only that key gives an accessor the name of their decorator. -/
theorem classBody_runs {form : Text → Text}
    (hform : ∀ t : Text, (∀ c ∈ t, c.isAscii = true) → form t = t) {type key block : Text}
    {phrases : Phrases} (h : sectionBlock .python type key phrases = .ok block) :
    ∃ body accessors, block = "class _" ++ type ++ "(SectionKeyDelegate):" ++ ("\n" ++ body) ∧
      accessors = phrases.keys.map (Naming.accessorOf Target.python.namingRules) ∧
      classLines body = .definition initName :: accessors.flatMap accessorLines ∧
      runClass form [] (classLines body) =
        (if decoratorName ∈ accessors.dropLast.map form then .error decoratorName
        else .ok (((initName :: accessors).map form).reverse)) ∧
      ((∀ k ∈ phrases.keys, ∀ c ∈ k, c.isAscii = true) →
        (decoratorName ∈ accessors.dropLast.map form ↔ decoratorName ∈ phrases.keys.dropLast)) ∧
      ∀ k ∈ phrases.keys, Naming.accessorOf Target.python.namingRules k ∉
        initName :: inheritedNames ∧
        (Naming.accessorOf Target.python.namingRules k = decoratorName ↔ k = decoratorName) := by
  obtain ⟨body, hblock, hlines⟩ := exists_classBody h
  refine ⟨body, _, hblock, rfl, hlines, ?_, fun hascii => ?_,
    fun k hk => ⟨?_, (accessorOf_spec k).2⟩⟩
  · rw [hlines, runClass_section hform]
  · rw [← List.map_dropLast, List.map_map, List.mem_map]
    have haccessor : ∀ k ∈ phrases.keys.dropLast,
        (form ∘ Naming.accessorOf Target.python.namingRules) k = decoratorName ↔
          k = decoratorName := by
      intro k hk
      rw [Function.comp_apply, hform _ (isAscii_accessorOf (hascii k (List.dropLast_subset _ hk)))]
      exact (accessorOf_spec k).2
    constructor
    · rintro ⟨k, hk, heq⟩
      exact (haccessor k hk).mp heq ▸ hk
    · exact fun hk => ⟨_, hk, (haccessor _ hk).mpr rfl⟩
  · obtain ⟨names, ms, keyLiteral, hnames, -⟩ := sectionBlock_eq_ok h
    obtain ⟨name, -, hname⟩ := exists_of_mem_left (Naming.resolveMembersAfter_eq_ok hnames) hk
    obtain ⟨-, rfl, hidentifier⟩ := Naming.accessorName_eq_ok hname
    refine List.mem_cons.not.mpr (not_or.mpr ⟨fun heq => ?_, (accessorOf_spec k).1⟩)
    rw [heq] at hidentifier
    revert hidentifier
    decide +kernel

/-- Two keys of ASCII, one of them reserved, whose section has a body that runs. -/
theorem classBody_runs_greeting : ∃ block body,
    sectionBlock .python "General" "general" (.ofList [("get", "Hello"), ("title", "World")]) =
      .ok block ∧
      block = "class _General(SectionKeyDelegate):\n" ++ body ∧
      runClass id [] (classLines body) = .ok (words ["title", "get_", "__init__"]) := by
  obtain ⟨block, hblock⟩ : ∃ block, sectionBlock .python "General" "general"
      (.ofList [("get", "Hello"), ("title", "World")]) = .ok block :=
        isOk_eq_true.mp (by decide +kernel)
  have hid : ∀ t : Text, (∀ c ∈ t, c.isAscii = true) → id t = t := fun _ _ => rfl
  obtain ⟨body, _, rfl, rfl, -, hruns, -⟩ := classBody_runs hid hblock
  refine ⟨_, body, hblock, rfl, hruns.trans ?_⟩
  decide +kernel

/-- A section whose first accessor is called as the decorator of the next one. -/
def capturingPhrases : Phrases := .ofList [("property", "Property"), ("title", "Title")]

/-- The section is emitted, and its body stops at the captured decorator in whatever form names are
compared. -/
theorem decorator_captured :
    ∃ block body, sectionBlock .python "General" "general" capturingPhrases = .ok block ∧
    block = "class _General(SectionKeyDelegate):\n" ++ body ∧
    ∀ form : Text → Text, (∀ t : Text, (∀ c ∈ t, c.isAscii = true) → form t = t) →
      runClass form [] (classLines body) = .error "property" := by
  obtain ⟨block, hblock⟩ : ∃ block, sectionBlock .python "General" "general" capturingPhrases =
      .ok block :=
    isOk_eq_true.mp (by decide +kernel)
  obtain ⟨body, rfl, hlines⟩ := exists_classBody hblock
  have haccessors : capturingPhrases.keys.map (Naming.accessorOf Target.python.namingRules) =
      words ["property", "title"] := by decide +kernel
  refine ⟨_, body, hblock, rfl, fun form hform => ?_⟩
  have captured : decoratorName ∈ (words ["property", "title"]).dropLast.map form :=
    List.mem_singleton.mpr (hform _ (by decide)).symm
  rw [hlines, haccessors, runClass_section hform, if_pos captured]
  rfl

end Artifact

end LocaleGen
