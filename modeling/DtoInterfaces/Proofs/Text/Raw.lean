import DtoInterfaces.Text.Basic
import Mathlib.Data.Char
import Mathlib.Data.List.Basic
import Mathlib.Data.List.Count
import Mathlib.Order.Lattice

namespace DtoInterfaces

/-- The code point of a character is below the surrogates or above them. -/
theorem Text.toNat_cases (c : Char) :
    c.toNat < 0xD800 ∨ 0xDFFF < c.toNat ∧ c.toNat < 0x110000 :=
  c.valid

namespace CodePoint

theorem toNat_char_ne (c : Char) (n : Fin 0x800) : (char c).toNat ≠ (surrogate n).toNat := by
  have hc := Text.toNat_cases c
  simp only [toNat]
  omega

theorem toNat_injective : Function.Injective toNat := by
  rintro (c | n) (d | m) h
  · exact congrArg char (Char.toNat_inj.1 h)
  · exact absurd h (toNat_char_ne c m)
  · exact absurd h.symm (toNat_char_ne d n)
  · exact congrArg surrogate (Fin.ext (Nat.add_left_cancel h))

instance : LinearOrder CodePoint := LinearOrder.lift' toNat toNat_injective

end CodePoint

namespace Text

@[simp] theorem raw_nil : raw [] = [] := rfl

@[simp] theorem raw_cons (c : Char) (t : Text) : raw (c :: t) = .char c :: raw t := rfl

@[simp] theorem raw_append (s t : Text) : raw (s ++ t) = raw s ++ raw t := List.map_append

theorem raw_injective : Function.Injective raw :=
  List.map_injective_iff.2 fun _ _ h => CodePoint.char.inj h

@[simp] theorem raw_inj {s t : Text} : raw s = raw t ↔ s = t := raw_injective.eq_iff

@[simp] theorem raw_eq_nil {t : Text} : raw t = [] ↔ t = [] := List.map_eq_nil_iff

@[simp] theorem char_mem_raw {c : Char} {t : Text} : .char c ∈ raw t ↔ c ∈ t :=
  List.mem_map_of_injective fun _ _ h => CodePoint.char.inj h

@[simp] theorem surrogate_notMem_raw {n : Fin 0x800} {t : Text} : .surrogate n ∉ raw t := by
  simp [raw]

@[simp] theorem count_raw (c : Char) (t : Text) : (raw t).count (.char c) = t.count c :=
  List.count_map_of_injective t CodePoint.char (fun _ _ h => CodePoint.char.inj h) c

@[simp] theorem filterMap_char?_raw (t : Text) : (raw t).filterMap CodePoint.char? = t := by
  rw [raw, List.filterMap_map]
  exact List.filterMap_some

end Text

namespace RawText

@[simp] theorem text?_nil : text? [] = some [] := rfl

theorem text?_cons (c : CodePoint) (t : RawText) :
    text? (c :: t) = c.char?.bind fun d => (text? t).map (d :: ·) := by
  rw [text?, List.mapM_cons]
  cases c.char? with
  | none => rfl
  | some d =>
    change (t.text?.bind fun u => some (d :: u)) = t.text?.map (d :: ·)
    cases t.text? <;> rfl

/-- The code points of a text are its characters. -/
theorem text?_eq_some_iff {t : RawText} {u : Text} : t.text? = some u ↔ t = u.raw := by
  induction t generalizing u with
  | nil => cases u <;> simp
  | cons c t ih =>
    rw [text?_cons]
    cases c with
    | char d => cases u <;> simp [CodePoint.char?, ih, and_comm]
    | surrogate n => cases u <;> simp [CodePoint.char?]

theorem text?_eq_none_iff {t : RawText} : t.text? = none ↔ ∃ n, .surrogate n ∈ t := by
  induction t with
  | nil => simp
  | cons c t ih =>
    rw [text?_cons]
    cases c with
    | char d => simp [CodePoint.char?, ih]
    | surrogate n => simp [CodePoint.char?]

end RawText

end DtoInterfaces
