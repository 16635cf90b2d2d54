import DtoInterfaces.Interface.Options

namespace DtoInterfaces

namespace Text

/-- A character before the capital letters, the null character left out. -/
def IsLow (d : Char) : Prop := 0 < d.toNat ∧ d.toNat < 0x41

instance (d : Char) : Decidable (IsLow d) := instDecidableAnd

/-- A number that is no code point stands for the null character. -/
theorem ofNat_ne_of_isLow {d : Char} (hd : IsLow d) {n : Nat} (hn : 0x41 ≤ n) :
    Char.ofNat n ≠ d := by
  rintro rfl
  obtain ⟨h0, hA⟩ := hd
  by_cases hv : n.isValidChar
  · have hcode : (Char.ofNat n).toNat = n := by
      rw [Char.ofNat, dif_pos hv]
      rfl
    omega
  · have hnull : Char.ofNat n = '\x00' := dif_neg hv
    rw [hnull] at h0
    exact absurd h0 (by decide)

theorem notMem_caseOf {expansions : List (Nat × List Nat)} {runs : List CaseRun} {c d : Char}
    (he : ∀ e ∈ expansions, ∀ n ∈ e.2, 0x41 ≤ n) (hr : ∀ r ∈ runs, 0x41 ≤ r.target)
    (hd : IsLow d) (hc : d ≠ c) : d ∉ caseOf expansions runs c := by
  unfold caseOf
  split
  · next image hi =>
    obtain ⟨l₁, l₂, hl, -⟩ := List.lookup_eq_some_iff.1 hi
    intro hm
    obtain ⟨n, hn, hnd⟩ := List.mem_map.1 hm
    have hA := he (c.toNat, image) (by simp [hl]) n hn
    exact ofNat_ne_of_isLow hd hA hnd
  · split
    · next r hf =>
      have hA := hr r (List.mem_of_find?_eq_some hf)
      intro hm
      exact ofNat_ne_of_isLow hd (Nat.le_add_right_of_le hA) (List.mem_singleton.1 hm).symm
    · simpa using hc

theorem notMem_upperCase {c d : Char} (hd : IsLow d) (hc : d ≠ c) : d ∉ upperCase c :=
  notMem_caseOf (by decide +kernel) (by decide +kernel) hd hc

theorem notMem_lowerCase {c d : Char} (hd : IsLow d) (hc : d ≠ c) : d ∉ lowerCase c :=
  notMem_caseOf (by decide +kernel) (by decide +kernel) hd hc

end Text

theorem Naming.notMem_convert (n : Naming) {name : Text} {d : Char} (hd : Text.IsLow d)
    (h : d ∉ name) : d ∉ n.convert name := by
  cases name with
  | nil => cases n <;> exact h
  | cons c rest =>
    obtain ⟨hc, hrest⟩ := not_or.1 (mt List.mem_cons.2 h)
    cases n with
    | preserve => exact h
    | camelCase => exact fun hm => (List.mem_append.1 hm).elim (Text.notMem_lowerCase hd hc) hrest
    | pascalCase => exact fun hm => (List.mem_append.1 hm).elim (Text.notMem_upperCase hd hc) hrest

end DtoInterfaces
