import DtoInterfaces.Proofs.Interface.Notices
import DtoInterfaces.Proofs.TypeExpr.References
import DtoInterfaces.Source.Extraction

namespace DtoInterfaces.Interface

open Text TypeExpr

theorem customType_mem_typeNotices {owner t w : Text} :
    Diagnostic.customType w (some owner) [] ∈ typeNotices owner (some t) ↔ w ∈ references t := by
  rw [typeNotices, List.mem_map]
  constructor
  · rintro ⟨v, hv, he⟩
    have hm := congrArg Diagnostic.message he
    simp only [Diagnostic.customType, List.append_cancel_left_eq, List.append_cancel_right_eq] at hm
    rwa [← hm]
  · intro h
    exact ⟨w, h, rfl⟩

/-- A word of an emitted type that is not one of TypeScript is a name from the C# type, and it is
reported just when it is not built in. -/
theorem emitType_reports_references (owner : Text) (held : Collector) {t w : Text}
    (hw : w ∈ words (project t)) (hout : w ∉ outputWords) :
    (w ∈ references t ↔ isBuiltIn w = false) ∧
    ∃ added, emitType owner (some held) (some t) =
        (project t, some { held with entries := held.entries ++ added }) ∧
      (Diagnostic.customType w (some owner) [] ∈ added ↔ isBuiltIn w = false) := by
  have href : w ∈ references t ↔ isBuiltIn w = false := by
    rw [mem_references]
    exact and_iff_right ((mem_words_project hw).resolve_left hout)
  refine ⟨href, typeNotices owner (some t), ?_, customType_mem_typeNotices.trans href⟩
  apply Prod.ext
  · rfl
  · simp [emitType_snd, reportAll]

/-- The element of a generic type that the projection does not know stays a C# name. -/
theorem emitType_reports_references_nested :
    ("HashSet" : Text) ∈ words (project "Dictionary<Tag, HashSet<int>?>") ∧
      ("HashSet" : Text) ∉ outputWords ∧
      ∃ added : List Diagnostic,
        emitType "Order" (some {}) (some ("Dictionary<Tag, HashSet<int>?>" : Text)) =
          (("Record<Tag, HashSet<int> | null>" : Text), some { entries := added }) ∧
        Diagnostic.customType "HashSet" (some "Order") [] ∈ added ∧
        Diagnostic.customType "int" (some "Order") [] ∉ added := by
  have hset : ("HashSet" : Text) ∈ words (project "Dictionary<Tag, HashSet<int>?>") ∧
      ("HashSet" : Text) ∉ outputWords := by decide +kernel
  have hint : ("int" : Text) ∈ words (project "Dictionary<Tag, HashSet<int>?>") ∧
      ("int" : Text) ∉ outputWords := by decide +kernel
  obtain ⟨-, added, he, hadded⟩ := emitType_reports_references "Order" {} hset.1 hset.2
  obtain ⟨-, added', he', hadded'⟩ := emitType_reports_references "Order" {} hint.1 hint.2
  obtain rfl : added = added' := by simpa using he.symm.trans he'
  have hp : project "Dictionary<Tag, HashSet<int>?>" = "Record<Tag, HashSet<int> | null>" := by
    decide +kernel
  refine ⟨hset.1, hset.2, added, ?_, hadded.2 (by decide), ?_⟩
  · rw [he, hp]
    rfl
  · intro hm
    exact absurd (hadded'.1 hm) (by decide)

/-- The element of a set stands in the interface by its C# name, and is not among the references. -/
theorem int_notMem_references_hashSet :
    Source.properties "public HashSet<int> Ids \x7b get; set; \x7d" =
        [⟨some "Ids", some "HashSet<int>"⟩] ∧
      ("int" : Text) ∈ words (project "HashSet<int>") ∧ ("int" : Text) ∉ outputWords ∧
      ("int" : Text) ∉ references "HashSet<int>" := by
  decide +kernel

end DtoInterfaces.Interface
