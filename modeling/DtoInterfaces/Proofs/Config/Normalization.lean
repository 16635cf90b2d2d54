import DtoInterfaces.Proofs.Config.Validation

namespace DtoInterfaces.Config

open Json EmissionOptions

/-- No value describes two configurations. -/
theorem Describes.unique {j : Json} {c c' : Config} (h : Describes j c) (h' : Describes j c') :
    c = c' :=
  Except.ok.inj ((ofJson_eq_ok_iff.2 h).symm.trans (ofJson_eq_ok_iff.2 h'))

section ToJson

variable (c : Config)

theorem get?_toJson_input : c.toJson.get? "input" = some (.array (c.patterns.map .text)) := by
  simp [toJson, get?, field?, List.lookup_cons, isNull]

theorem get?_toJson_output : c.toJson.get? "output" = some (.text c.output) := by
  simp [toJson, get?, field?, List.lookup_cons, isNull]

theorem get?_toJson_options : c.toJson.get? "options" = some c.options.toJson := by
  simp [toJson, get?, field?, EmissionOptions.toJson, isNull]

theorem readsOptions_toJson {fields : List (RawText × Json)}
    (h : c.options.toJson = .object fields) :
    ReadsOptions c.toJson fields :=
  .inr (h ▸ c.get?_toJson_options)

/-- All four options are given. -/
theorem describesOptions_toJson : DescribesOptions c.toJson c.options := by
  have hoption (name : Text) := (c.readsOptions_toJson rfl).option?_eq name
  refine ⟨.inr ?_, .inr ?_, .inr ?_, .inr ?_⟩
  all_goals
    rw [hoption]
    simp [field?, List.lookup_cons, isNull]

variable {c}

theorem describes_toJson (hpatterns : c.patterns ≠ []) (houtput : c.output ≠ []) :
    Describes c.toJson c where
  object := ⟨_, rfl⟩
  input := c.get?_toJson_input
  patterns_ne_nil := hpatterns
  output := c.get?_toJson_output
  output_ne_nil := houtput
  options := .inr ⟨_, c.get?_toJson_options⟩
  chosen := c.describesOptions_toJson

end ToJson

end DtoInterfaces.Config
