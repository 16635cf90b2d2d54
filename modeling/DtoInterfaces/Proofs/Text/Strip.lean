import DtoInterfaces.Text.CharClass
import Mathlib.Data.List.DropRight
import Mathlib.Data.List.TakeWhile

namespace DtoInterfaces.Text

/-- A text of blanks only. -/
def AllBlank (b : Text) : Prop := ∀ c ∈ b, isBlank c

instance (b : Text) : Decidable (AllBlank b) :=
  decidable_of_iff (b.all isBlank = true) List.all_eq_true

theorem strip_eq_rdropWhile (t : Text) :
    strip t = (t.dropWhile isBlank).rdropWhile isBlank := rfl

theorem rdropWhile_append_of_pos {p : Char → Bool} (t : Text) {b : Text} (hb : ∀ c ∈ b, p c) :
    (t ++ b).rdropWhile p = t.rdropWhile p := by
  unfold List.rdropWhile
  rw [List.reverse_append, List.dropWhile_append_of_pos]
  simpa using hb

theorem strip_append_left {b : Text} (hb : AllBlank b) (t : Text) : strip (b ++ t) = strip t := by
  rw [strip_eq_rdropWhile, List.dropWhile_append_of_pos hb]
  rfl

theorem strip_append_right (t : Text) {b : Text} (hb : AllBlank b) : strip (t ++ b) = strip t := by
  simp only [strip_eq_rdropWhile, List.dropWhile_append]
  split
  · next ht =>
    have hd : b.dropWhile isBlank = [] := List.dropWhile_eq_nil_iff.2 hb
    rw [List.isEmpty_iff.1 ht, hd]
  · exact rdropWhile_append_of_pos _ hb

/-- What stripping leaves lies between two blank texts. -/
theorem exists_append_strip (t : Text) :
    ∃ b b', AllBlank b ∧ AllBlank b' ∧ t = b ++ strip t ++ b' := by
  refine ⟨t.takeWhile isBlank, (t.dropWhile isBlank).rtakeWhile isBlank,
    fun c => List.mem_takeWhile_imp, fun c => List.mem_rtakeWhile_imp, ?_⟩
  rw [strip_eq_rdropWhile, List.append_assoc, List.rdropWhile_append_rtakeWhile,
    List.takeWhile_append_dropWhile]

theorem strip_eq_self_iff {t : Text} :
    strip t = t ↔ (∀ c ∈ t.head?, isBlank c = false) ∧ ∀ c ∈ t.getLast?, isBlank c = false := by
  have hd : t.dropWhile isBlank = t ↔ ∀ c ∈ t.head?, isBlank c = false := by
    rw [List.dropWhile_eq_self_iff]
    cases t <;> simp
  have hr : t.rdropWhile isBlank = t ↔ ∀ c ∈ t.getLast?, isBlank c = false := by
    rw [List.rdropWhile_eq_self_iff]
    rcases List.eq_nil_or_concat t with rfl | ⟨u, c, rfl⟩ <;> simp
  rw [← hd, ← hr, strip_eq_rdropWhile]
  constructor
  · intro h
    have h1 := List.rdropWhile_prefix isBlank (l := t.dropWhile isBlank)
    rw [h] at h1
    have h2 := List.dropWhile_suffix isBlank (l := t)
    have h3 := h2.eq_of_length_le h1.length_le
    exact ⟨h3, by rwa [h3] at h⟩
  · rintro ⟨h1, h2⟩
    rw [h1, h2]

theorem strip_strip (t : Text) : strip (strip t) = strip t := by
  obtain ⟨b, b', hb, hb', ht⟩ := exists_append_strip t
  conv_rhs => rw [ht]
  rw [strip_append_right _ hb', strip_append_left hb]

/-- What stands between two stripped texts does not matter. -/
theorem strip_between {s t : Text} (hs : strip s = s) (hs' : s ≠ []) (ht : strip t = t)
    (ht' : t ≠ []) (m : Text) : strip (s ++ m ++ t) = s ++ m ++ t := by
  rw [strip_eq_self_iff] at hs ht ⊢
  constructor
  · rw [List.append_assoc, List.head?_append_of_ne_nil _ hs']
    exact hs.1
  · rw [List.getLast?_append_of_ne_nil _ ht']
    exact ht.2

end DtoInterfaces.Text
