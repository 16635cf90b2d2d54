import DtoInterfaces.Proofs.TypeExpr.Primitive
import DtoInterfaces.Proofs.TypeExpr.Tree

namespace DtoInterfaces.TypeExpr

open Text

/-- The text of an array type. A nullable element stands in parentheses. -/
def arrayText (nullableElement : Bool) (element : Text) : Text :=
  if nullableElement then "(" ++ element ++ ")[]" else element ++ "[]"

def recordText (key value : Text) : Text := "Record<" ++ key ++ ", " ++ value ++ ">"

theorem recordText_eq_applied (key value : Text) :
    recordText key value = applied "Record" (key ++ ',' :: ' ' :: value) := by
  unfold recordText applied
  simp

theorem deep_bar_recordText {key value : Text} (hk : Deep '|' 0 key) (hk0 : depth key = 0)
    (hv : Deep '|' 0 value) : Deep '|' 1 (recordText key value) := by
  rw [recordText_eq_applied]
  apply deep_applied (by decide) (by decide) (by decide)
  rw [deep_append, deep_cons, deep_cons, hk0]
  exact ⟨hk.mono (by decide), by decide, by decide, hv.mono (by decide)⟩

namespace TypeTree

def isNullable : TypeTree → Bool
  | nullable _ => true
  | _ => false

/-- The TypeScript text of a C# type. -/
def tsText : TypeTree → Text
  | name w => (primitive? w.text).getD w.text
  | generic g => g.text
  | nullable t => t.tsText ++ " | null"
  | list _ t => arrayText t.isNullable t.tsText
  | array t => arrayText t.isNullable t.tsText
  | dictionary _ k v => recordText k.tsText v.tsText

end TypeTree

inductive TsType where
  | name (w : Word)
  | generic (g : Generic)
  | nullable (base : TsType)
  | array (element : TsType)
  | record (key value : TsType)
  deriving DecidableEq

/-- The two kinds of list and arrays are one, and so are the two kinds of dictionary. -/
def TypeTree.translate : TypeTree → TsType
  | .name w => .name (translateWord w)
  | .generic g => .generic g
  | .nullable t => .nullable t.translate
  | .list _ t => .array t.translate
  | .array t => .array t.translate
  | .dictionary _ k v => .record k.translate v.translate

namespace TsType

def isNullable : TsType → Bool
  | nullable _ => true
  | _ => false

def text : TsType → Text
  | name w => w.text
  | generic g => g.text
  | nullable t => t.text ++ " | null"
  | array t => arrayText t.isNullable t.text
  | record k v => recordText k.text v.text

theorem depth_text (t : TsType) : depth t.text = 0 := by
  induction t with
  | name w => exact depth_word w
  | generic g => exact (Renders.generic g).depth_eq
  | nullable t ih => simp [text, ih, bracketStep]
  | array t ih =>
    rw [text, arrayText]
    split <;> simp [ih, bracketStep]
  | record k v ihk ihv =>
    rw [text, recordText_eq_applied, depth_applied (by decide)]
    simp [ihk, ihv, bracketStep]

/-- The number of brackets that stand around every bar. -/
def barDepth (t : TsType) : Int := if t.isNullable then 0 else 1

theorem barDepth_nonneg (t : TsType) : 0 ≤ t.barDepth := by
  unfold barDepth
  split <;> decide

theorem deep_bar_text (t : TsType) : Deep '|' t.barDepth t.text := by
  induction t with
  | name w => exact deep_of_notMem (w.notMem (by decide))
  | generic g =>
    exact deep_applied (depth_word g.head) (g.head.notMem (by decide)) (by decide)
      (deep_of_notMem g.bar_notMem)
  | nullable t ih =>
    rw [text, deep_append, depth_text]
    refine ⟨ih.mono t.barDepth_nonneg, ?_⟩
    simp [deep_cons, deep_of_notMem, barDepth, isNullable, bracketStep]
  | array t ih =>
    rw [text, arrayText]
    split
    · exact deep_enclosed (by decide) (by decide) (ih.mono t.barDepth_nonneg)
    · next hn =>
      -- the bars of the element are deep already, as it is no union
      rw [barDepth, if_neg hn] at ih
      exact deep_append_of_notMem (by decide) ih
  | record k v ihk ihv =>
    exact deep_bar_recordText (ihk.mono k.barDepth_nonneg) k.depth_text
      (ihv.mono v.barDepth_nonneg)

theorem hasTopLevelUnion_text (t : TsType) : hasTopLevelUnion t.text = t.isNullable := by
  cases h : t.isNullable with
  | false => exact hasUnionAt_eq_false t.deep_bar_text (by simp [barDepth, h])
  | true =>
    obtain ⟨base, rfl⟩ : ∃ base, t = nullable base := by cases t <;> simp_all [isNullable]
    exact hasTopLevelUnion_null base.depth_text

theorem isNullable_translate (t : TypeTree) : t.translate.isNullable = t.isNullable := by
  cases t <;> rfl

theorem text_translate (t : TypeTree) : t.translate.text = t.tsText := by
  induction t with
  | name w => rfl
  | generic g => rfl
  | nullable t ih => rw [TypeTree.translate, text, ih, TypeTree.tsText]
  | list interface t ih =>
    rw [TypeTree.translate, text, ih, isNullable_translate, TypeTree.tsText]
  | array t ih => rw [TypeTree.translate, text, ih, isNullable_translate, TypeTree.tsText]
  | dictionary interface k v ihk ihv => rw [TypeTree.translate, text, ihk, ihv, TypeTree.tsText]

theorem arrayOf_text (t : TsType) : arrayOf t.text = (array t).text := by
  rw [arrayOf, hasTopLevelUnion_text, text, arrayText]

end TsType

end DtoInterfaces.TypeExpr
