import LocaleGen.Proofs.Emission
import LocaleGen.Proofs.FileTree
import Mathlib

/-!
# Generated sources are kept by files

Names, numbers, literals by escapes and raw literals all bring in plain characters only, so a source
that is generated holds neither a surrogate nor a carriage return. It can be encoded for that
reason, and reading a file that it has been written to gives the source: `generate_persists`.
-/

namespace LocaleGen.Artifact

variable {target : Target} {i : Inputs} {text : Text}

theorem isScalar_of_generate (h : generate target i = .ok text) : text.IsScalar := fun c hc =>
  Target.isSurrogate_of_isPlain (List.all_eq_true.mp (isPlain_of_generate h) c hc)

theorem noReturn_of_generate (h : generate target i = .ok text) :
    CodePoint.ofChar '\r' ∉ text := fun hc =>
  Target.ne_return_of_isPlain (List.all_eq_true.mp (isPlain_of_generate h) _ hc) rfl

/-- A source that is generated holds neither a surrogate nor a carriage return. So it can be
encoded, and nothing in it keeps it from being written: that succeeds where it does for the empty
text, and reading the file gives the source. -/
theorem generate_persists {target : Target} {i : Inputs} {text : Text}
    (h : generate target i = .ok text) :
    (∀ c ∈ text, c.isSurrogate = false ∧ c ≠ CodePoint.ofChar '\r') ∧
    (∃ bytes, Utf8.encode text = .ok bytes ∧ Utf8.decode bytes = .ok text) ∧
    ∀ (tree : FileTree) (root : Text) (path : Path),
      (tree.writeText root path text).2 = (tree.writeText root path []).2 ∧
      ∀ tree', tree.writeText root path text = (tree', .ok ()) →
      tree'.readText path = .ok text := by
  have hscalar := isScalar_of_generate h
  have hreturn := noReturn_of_generate h
  refine ⟨fun c hc => ⟨hscalar c hc, ?_⟩,
    ⟨_, Utf8.encode_of_isScalar hscalar, Utf8.decode_encodeAll hscalar⟩, ?_⟩
  · rintro rfl
    exact hreturn hc
  · intro tree root path
    exact ⟨FileTree.result_writeText hscalar tree root path,
      fun tree' hwritten => FileTree.readText_of_writeText hscalar hreturn hwritten⟩

/-- A source with literals of both kinds is written below a directory that has to be made, and read
from there. -/
theorem generate_persists_quotingInputs : ∃ text tree', generate .python quotingInputs = .ok text ∧
    FileTree.empty.writeText "/home" (Path.ofText "lib/nstack.py") text = (tree', .ok ()) ∧
      tree'.readText (Path.ofText "lib/nstack.py") = .ok text := by
  have hok : (generate .python quotingInputs).isOk = true := by decide +kernel
  cases htext : generate .python quotingInputs with
  | error fault =>
    rw [htext] at hok
    cases hok
  | ok text =>
    obtain ⟨-, -, kept⟩ := generate_persists htext
    obtain ⟨result, read⟩ := kept FileTree.empty "/home" (Path.ofText "lib/nstack.py")
    have made : ((FileTree.empty.writeText "/home" (Path.ofText "lib/nstack.py") []).2.isOk) =
        true := by
      decide +kernel
    cases hwritten : FileTree.empty.writeText "/home" (Path.ofText "lib/nstack.py") text with
    | mk tree' outcome =>
      rw [hwritten] at result read
      cases outcome with
      | error fault =>
        rw [← result] at made
        cases made
      | ok => exact ⟨text, tree', rfl, hwritten, read tree' rfl⟩

end LocaleGen.Artifact
