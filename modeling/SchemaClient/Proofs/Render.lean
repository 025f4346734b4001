import SchemaClient.Generate
import SchemaClient.Proofs.Traced

/-! From a model to checked text: the first of its steps that fails is the failure of the whole. -/
namespace SchemaClient

/-- A platform on which no character has a name and every template stands for itself. -/
def Platform.verbatim : Platform where
  characterNames _ := none
  loadTemplate text := .ok fun _ => .ok text

namespace Model

section CheckText

variable {names : Code.CharacterNames} {filename content : String}

theorem checkText_eq_ok_iff {code : String} :
    checkText names filename content = .ok code ↔
      content.toList.contains (Char.ofNat 0) = false ∧ Code.wellFormed names content ∧
        code = content := by
  unfold checkText
  split_ifs with hnul hform
  · exact ⟨nofun, fun h => absurd (h.1.symm.trans hnul) (by decide)⟩
  · rw [Bool.not_eq_true] at hnul
    exact ⟨fun h => ⟨hnul, hform, (Except.ok.inj h).symm⟩, fun h => congrArg Except.ok h.2.2.symm⟩
  · exact ⟨nofun, fun h => absurd h.2.1 hform⟩

theorem checkText_of_not_wellFormed (hnul : content.toList.contains (Char.ofNat 0) = false)
    (hform : Code.wellFormed names content = false) :
    checkText names filename content = .error (.invalidModuleFor filename) := by
  rw [checkText, hnul, hform]
  rfl

end CheckText

variable {m : Model} {p : Platform} {scalars : ScalarRegistry} {filename : String}

theorem result_render (m : Model) (p : Platform) (scalars : ScalarRegistry) (layout : Layout)
    (hooks : Hooks) (filename : String) :
    (m.render p scalars layout hooks filename).result = (do
      let m ← (hooks.runPre m).result
      let renderer ← layout.load p
      m.supported
      let content ← renderer (.ofModel scalars m)
      let content ← hooks.runPost filename content
      checkText p.characterNames filename content) := by
  unfold render
  simp only [Traced.result_bind, Traced.result_liftM]
  rfl

/-- With the usual layout and no hooks the text is that of the module. -/
theorem result_render_standard (h : m.supported = .ok ()) :
    (m.render p scalars .standard {} filename).result =
      checkText p.characterNames filename (Module.ofModel scalars m).text := by
  have hpre : (({} : Hooks).runPre m).result = .ok m := rfl
  have hload : Layout.standard.load p = .ok fun m => .ok m.text := rfl
  have hpost : ∀ content, ({} : Hooks).runPost filename content = .ok content := fun _ => rfl
  simp only [result_render, hpre, hload, hpost, h, bind, Except.bind]

end Model

end SchemaClient
