import DtoInterfaces.Proofs.Interface.Lines
import DtoInterfaces.Proofs.Source.Scan
import DtoInterfaces.Proofs.TypeExpr.Unambiguous

namespace DtoInterfaces

open Text TypeExpr Source

/-- A word, perhaps an argument group that ends at the first `>`, perhaps a question mark. -/
def IsFlat (s : Text) : Prop :=
  ∃ (w : Word) (group mark : Text), s = w.text ++ group ++ mark ∧
    (group = [] ∨ ∃ a, '>' ∉ a ∧ group = '<' :: a ++ ['>']) ∧ IsMark mark

namespace TypeExpr.Renders

variable {t : TypeTree} {s : Text}

/-- The argument group of a written type has something in it. -/
theorem ne_applied_nil (h : Renders t s) (ht : t.Plain) (w : Word) : s ≠ applied w.text [] := by
  intro he
  have hw : '<' ∉ w.text := w.notMem (by decide)
  have hl : s.getLast? = some '>' := by rw [he, getLast?_applied]
  cases h with
  | name v => exact absurd hl (TsType.getLast?_word_ne v (by decide))
  | generic g => exact ht
  | nullable => simp at hl
  | list interface hs =>
    have ha := (applied_inj (by cases interface <;> decide) hw).1 he
    simp [hs.ne_nil] at ha
  | array => simp at hl
  | dictionary interface =>
    have ha := (applied_inj (by cases interface <;> decide) hw).1 he
    simp at ha

theorem ne_applied_nil_question (h : Renders t s) (ht : t.Plain) (w : Word) :
    s ≠ applied w.text [] ++ ['?'] := by
  intro he
  have hl : s.getLast? = some '?' := by simp [he]
  cases h with
  | name v => exact absurd hl (TsType.getLast?_word_ne v (by decide))
  | generic g => exact ht
  | @nullable t s b hs hb =>
    rw [List.append_left_inj] at he
    rcases List.eq_nil_or_concat b with rfl | ⟨b, c, rfl⟩
    · exact hs.ne_applied_nil ht w (by simpa using he)
    · -- the last character would be a blank
      have hc := congrArg List.getLast? he
      rw [getLast?_applied, List.concat_eq_append, List.getLast?_append_of_ne_nil _ (by simp)] at hc
      obtain rfl : c = '>' := by simpa using hc
      exact absurd (hb.1 '>' (by simp)) (by decide)
  | list => simp [getLast?_applied] at hl
  | array => simp at hl
  | dictionary => simp [getLast?_applied] at hl

theorem isDeclaredType (h : Renders t s) (ht : t.Plain) (hs : IsFlat s) : IsDeclaredType s := by
  obtain ⟨w, group, mark, rfl, hg, hm⟩ := hs
  refine ⟨w, group, mark, ?_, hm, rfl⟩
  rcases hg with rfl | ⟨a, ha, rfl⟩
  · exact .inl rfl
  · refine .inr ⟨a, ?_, ha, rfl⟩
    rintro rfl
    rcases hm with rfl | rfl
    · exact h.ne_applied_nil ht w (by simp [applied])
    · exact h.ne_applied_nil_question ht w (by simp [applied])

end TypeExpr.Renders

/-- A property as it is written: its name, its type, and the text of the type. -/
structure Member where
  name : Word
  type : TypeTree
  typeText : Text
  plain : type.Plain
  renders : Renders type typeText
  flat : IsFlat typeText

namespace Member

def declaration (m : Member) : Text :=
  "public " ++ m.typeText ++ " " ++ m.name.text ++ " \x7b get; set; \x7d"

def property (m : Member) : Property := ⟨some m.name.text, some m.typeText⟩

/-- The line of the property in the interface. -/
def line (o : EmissionOptions) (m : Member) : RawText :=
  o.indentation ++ (o.naming.convert m.name.text).raw ++ ": " ++ m.type.tsText.raw ++ ";"

theorem declares (m : Member) : Declares m.typeText m.name m.declaration := by
  have hb : AllBlank [' '] := by decide
  have h : Declares m.typeText m.name _ :=
    .intro (m.renders.isDeclaredType m.plain m.flat) ⟨hb, by simp⟩ ⟨hb, by simp⟩ hb hb hb hb
  unfold declaration
  simpa using h

theorem memberLine?_property (o : EmissionOptions) (m : Member) :
    Interface.memberLine? o m.property = some (m.line o) := by
  have hn : m.name.text.isEmpty = false := List.isEmpty_eq_false_iff.2 m.name.ne_nil
  have ht : project m.typeText = m.type.tsText := by
    rw [project_renders m.renders, TsType.text_translate]
  simp only [Interface.memberLine?, property, Option.filter_some, hn, Bool.not_false, if_true,
    Option.map_some, Interface.memberLine, Interface.memberType, ht]
  rfl

end Member

/-- What stands behind the opening brace of a class, up to its closing brace. -/
def bodyText (ms : List Member) : Text := ms.flatMap (fun m => ' ' :: m.declaration) ++ " \x7d"

/-- A class with the given properties, as it is written on one line. -/
def classText (name : Word) (ms : List Member) : Text :=
  "public class " ++ name.text ++ " \x7b" ++ bodyText ms

theorem properties_bodyText (ms : List Member) :
    properties (bodyText ms) = ms.map Member.property := by
  induction ms with
  | nil =>
    rw [bodyText, List.flatMap_nil, List.nil_append, ← List.append_nil (" \x7d" : String).toList,
      properties_of_notMem (by decide), properties_nil]
    rfl
  | cons m ms ih =>
    -- the blank is passed over, the declaration is taken, and the scan goes on behind it
    have he : bodyText (m :: ms) = [' '] ++ (m.declaration ++ bodyText ms) := by simp [bodyText]
    have hp := property?_append m.declares (bodyText ms)
    rw [he, properties_of_notMem (by decide), properties_of_property? hp, ih]
    rfl

/-- No accessor follows the brace that opens a class. -/
theorem symbol?_bodyText (ms : List Member) : symbol? "get;" (bodyText ms) = none := by
  unfold bodyText
  cases ms with
  | nil => rfl
  | cons m ms =>
    unfold Member.declaration
    rfl

/-- A class that was written is read back, each type as it stands. -/
theorem classDecl?_classText (name : Word) (ms : List Member) :
    classDecl? (classText name ms) = some ⟨name.text, ms.map Member.property⟩ := by
  have h := classDecl?_oneLine name (symbol?_bodyText ms)
  rw [properties_bodyText] at h
  exact h

namespace Interface

theorem bodyLines_members (o : EmissionOptions) (name : Text) (ms : List Member) :
    bodyLines o ⟨name, ms.map Member.property⟩ =
      if ms.isEmpty then [o.indentation ++ "// No properties"] else ms.map (Member.line o) := by
  have hl : memberLine? o ∘ Member.property = some ∘ Member.line o := by
    funext m
    exact m.memberLine?_property o
  rw [bodyLines, List.filterMap_map, hl, List.filterMap_eq_map, List.isEmpty_map]

/-- The interface of a class that was written: a line for every property, in the same order. -/
theorem emit_classText {o : EmissionOptions} (ho : o.stamped = false) (now : Timestamp) (log : Log)
    (name : Word) (ms : List Member) :
    (classDecl? (classText name ms)).map (fun c => (emit o now log c).1) = some (Text.join "\n"
      (Text.raw ((if o.exported then "export " else [] : Text) ++ "interface " ++ name.text ++
          " \x7b") ::
        (if ms.isEmpty then [o.indentation ++ "// No properties"] else ms.map (Member.line o)) ++
        [Text.raw ['}']])) := by
  rw [classDecl?_classText, Option.map_some, emit_fst, bodyLines_members, ho]
  rfl

def idMember : Member where
  name := ⟨"Id", by decide, by decide⟩
  type := .name ⟨"int", by decide, by decide⟩
  typeText := "int"
  plain := trivial
  renders := .name _
  flat := ⟨⟨"int", by decide, by decide⟩, [], [], rfl, .inl rfl, .inl rfl⟩

def tagsMember : Member where
  name := ⟨"Tags", by decide, by decide⟩
  type := .nullable (.list false (.nullable (.name ⟨"string", by decide, by decide⟩)))
  typeText := "List<string?>?"
  plain := trivial
  renders := by
    have hn : IsGap [] := by decide
    exact ((((Renders.name _).nullable hn).list false hn hn).nullable hn)
  flat := ⟨⟨"List", by decide, by decide⟩, "<string?>", "?", rfl,
    .inr ⟨"string?", by decide, rfl⟩, .inr rfl⟩

/-- Two properties, the second one a nullable list of nullable elements. -/
theorem emit_classText_order : ∃ name : Word, name.text = "Order" ∧
    classText name [idMember, tagsMember] =
      "public class Order \x7b public int Id \x7b get; set; \x7d" ++
        " public List<string?>? Tags \x7b get; set; \x7d \x7d" ∧
    (classDecl? (classText name [idMember, tagsMember])).map
      (fun c => (emit { stamped := false } ⟨2024, 1, 2, 3, 4, 5, 0, none⟩ none c).1) = some
      "export interface Order \x7b\n  Id: number;\n  Tags: (string | null)[] | null;\n\x7d" := by
  refine ⟨⟨"Order", by decide, by decide⟩, rfl, by decide +kernel, ?_⟩
  rw [emit_classText rfl]
  decide +kernel

end Interface

end DtoInterfaces
