import DtoInterfaces.Text.CharClass

namespace DtoInterfaces.Text

theorem inRanges_iff {ranges : List (Nat × Nat)} {n : Nat} :
    inRanges ranges n = true ↔ ∃ r ∈ ranges, r.1 ≤ n ∧ n ≤ r.2 := by
  simp [inRanges]

/-- All word characters as inclusive ranges, those of ASCII first. -/
def allWordRanges : List (Nat × Nat) := [(48, 57), (65, 90), (95, 95), (97, 122)] ++ wordRanges

theorem inRanges_of_isWordChar {c : Char} (h : isWordChar c) :
    inRanges allWordRanges c.toNat := by
  rw [inRanges_iff]
  delta isWordChar Char.isAlphanum Char.isAlpha Char.isUpper Char.isLower Char.isDigit at h
  simp only [Bool.or_eq_true, Bool.and_eq_true, decide_eq_true_eq, beq_iff_eq, ge_iff_le,
    UInt32.le_iff_toNat_le] at h
  rcases h with (((h | h) | h) | rfl) | ⟨-, h⟩
  · exact ⟨(65, 90), by decide, h⟩
  · exact ⟨(97, 122), by decide, h⟩
  · exact ⟨(48, 57), by decide, h⟩
  · exact ⟨(95, 95), by decide, by decide⟩
  · obtain ⟨r, hr, hn⟩ := inRanges_iff.1 h
    exact ⟨r, List.mem_append_right _ hr, hn⟩

/-- Each range of word characters ends before a range of blanks or begins after it. -/
theorem allWordRanges_apart :
    ∀ r ∈ allWordRanges, ∀ s ∈ blankRanges, r.2 < s.1 ∨ s.2 < r.1 := by
  decide +kernel

theorem isBlank_of_isWordChar {c : Char} (h : isWordChar c) : isBlank c = false := by
  obtain ⟨r, hr, hrc⟩ := inRanges_iff.1 (inRanges_of_isWordChar h)
  rw [← Bool.not_eq_true, isBlank, inRanges_iff]
  rintro ⟨s, hs, hsc⟩
  have := allWordRanges_apart r hr s hs
  omega

theorem isWordChar_of_isBlank {c : Char} (h : isBlank c) : isWordChar c = false := by
  cases hw : isWordChar c with
  | false => rfl
  | true => exact absurd h (by simp [isBlank_of_isWordChar hw])

/-- A word. -/
structure Word where
  text : Text
  ne_nil : text ≠ []
  all_isWordChar : text.all isWordChar
  deriving DecidableEq

namespace Word

theorem isWordChar_of_mem (w : Word) : ∀ c ∈ w.text, isWordChar c :=
  List.all_eq_true.1 w.all_isWordChar

theorem notMem (w : Word) {c : Char} (hc : isWordChar c = false) : c ∉ w.text := by
  intro h
  simp [w.isWordChar_of_mem c h] at hc

theorem text_injective {w v : Word} (h : w.text = v.text) : w = v := by
  cases w
  cases v
  simpa using h

end Word

def IsWord (t : Text) : Prop := ∃ w : Word, t = w.text

instance (t : Text) : Decidable (IsWord t) :=
  decidable_of_iff (t ≠ [] ∧ t.all isWordChar)
    ⟨fun ⟨h, hall⟩ => ⟨⟨t, h, hall⟩, rfl⟩, fun ⟨w, h⟩ => h ▸ ⟨w.ne_nil, w.all_isWordChar⟩⟩

end DtoInterfaces.Text
