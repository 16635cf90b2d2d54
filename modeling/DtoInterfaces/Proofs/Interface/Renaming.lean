import DtoInterfaces.Interface.Options
import DtoInterfaces.Proofs.Text.LetterCase

namespace DtoInterfaces.Naming

open Text

/-- What a convention makes of the first character of a name. -/
def initial : Naming → Char → Text
  | .preserve, c => [c]
  | .camelCase, c => lowerCase c
  | .pascalCase, c => upperCase c

variable {c : Char} (n : Naming)

theorem convert_nil : n.convert [] = [] := by
  cases n <;> rfl

theorem convert_cons (c : Char) (rest : Text) : n.convert (c :: rest) = n.initial c ++ rest := by
  cases n <;> rfl

/-- A convention may make several characters of one, and the first of them follows it. -/
theorem exists_initial_eq_cons (c : Char) :
    ∃ d more, n.initial c = d :: more ∧ n.initial d = [d] := by
  cases n with
  | preserve => exact ⟨c, [], rfl, rfl⟩
  | camelCase => exact exists_lowerCase_eq_cons c
  | pascalCase => exact exists_upperCase_eq_cons c

theorem convert_convert_self (name : Text) : n.convert (n.convert name) = n.convert name := by
  cases name with
  | nil => rw [convert_nil, convert_nil]
  | cons c rest =>
    obtain ⟨d, more, hc, hd⟩ := n.exists_initial_eq_cons c
    rw [convert_cons, hc, List.cons_append, convert_cons, hd, List.singleton_append]

theorem tail_suffix_convert (name : Text) : name.tail <:+ n.convert name := by
  cases name with
  | nil => exact List.nil_suffix
  | cons c rest =>
    rw [convert_cons, List.tail_cons]
    exact List.suffix_append (n.initial c) rest

theorem camelCase_cons (h : c.isAlpha) (rest : Text) :
    camelCase.convert (c :: rest) = c.toLower :: rest := by
  rw [convert_cons, initial, lowerCase_of_isAlpha h, List.singleton_append]

theorem pascalCase_cons (h : c.isAlpha) (rest : Text) :
    pascalCase.convert (c :: rest) = c.toUpper :: rest := by
  rw [convert_cons, initial, upperCase_of_isAlpha h, List.singleton_append]

theorem length_convert_cons (h : c.isAlpha) (rest : Text) :
    (n.convert (c :: rest)).length = (c :: rest).length := by
  cases n with
  | preserve => rfl
  | camelCase => rw [camelCase_cons h, List.length_cons, List.length_cons]
  | pascalCase => rw [pascalCase_cons h, List.length_cons, List.length_cons]

/-- Converting a name a second time changes nothing, and a converted name ends as the name does
behind its first character. Where that is an ASCII letter it becomes the small or the capital one,
whichever convention the name followed before, and nothing else changes. -/
theorem convert_idempotent (name : Text) :
    n.convert (n.convert name) = n.convert name ∧ name.tail <:+ n.convert name ∧
      ∀ c rest, name = c :: rest → c.isAlpha →
        camelCase.convert name = c.toLower :: rest ∧ pascalCase.convert name = c.toUpper :: rest ∧
          camelCase.convert (pascalCase.convert name) = camelCase.convert name ∧
          pascalCase.convert (camelCase.convert name) = pascalCase.convert name ∧
          (n.convert name).length = name.length := by
  refine ⟨n.convert_convert_self name, n.tail_suffix_convert name, ?_⟩
  intro c rest hname h
  have hlower : c.toLower.isAlpha := by rwa [Char.isAlpha_toLower_eq_isAlpha]
  have hupper : c.toUpper.isAlpha := by rwa [Char.isAlpha_toUpper_eq_isAlpha]
  rw [hname, camelCase_cons h, pascalCase_cons h, camelCase_cons hupper, pascalCase_cons hlower,
    Char.toLower_toUpper_eq_toLower, Char.toUpper_toLower_eq_toUpper]
  exact ⟨rfl, rfl, rfl, rfl, n.length_convert_cons h rest⟩

/-- One character may become two, which then stay. -/
theorem convert_idempotent_sharpS :
    pascalCase.convert "ßt" = "SSt" ∧ pascalCase.convert "SSt" = "SSt" ∧ 'i'.isAlpha ∧
      camelCase.convert (pascalCase.convert "iD") = "iD" ∧
      pascalCase.convert (camelCase.convert "iD") = "ID" := by
  have hsharp : pascalCase.convert "ßt" = "SSt" := by decide +kernel
  have hi : 'i'.isAlpha := by decide
  have htwice := (convert_idempotent pascalCase "ßt").1
  obtain ⟨hcamel, hpascal, hback, hforth, -⟩ :=
    (convert_idempotent camelCase "iD").2.2 'i' ['D'] (by decide) hi
  rw [hsharp] at htwice
  refine ⟨hsharp, htwice, hi, ?_, ?_⟩
  · rw [hback, hcamel]
    decide
  · rw [hforth, hpascal]
    decide

end DtoInterfaces.Naming
