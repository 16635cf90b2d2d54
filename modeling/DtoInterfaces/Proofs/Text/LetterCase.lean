import DtoInterfaces.Text.LetterCase
import Mathlib

namespace DtoInterfaces.Text

/-- The number that has the bits of a list. -/
def bits (ns : List Nat) : Nat := ns.foldr (fun n b => 1 <<< n ||| b) 0

theorem testBit_bits (ns : List Nat) (n : Nat) : (bits ns).testBit n ↔ n ∈ ns := by
  induction ns with
  | nil => simp [bits]
  | cons m ns ih =>
    have hbits : bits (m :: ns) = 1 <<< m ||| bits ns := rfl
    rw [hbits, Nat.testBit_or, Nat.one_shiftLeft, Nat.testBit_two_pow, Bool.or_eq_true,
      decide_eq_true_eq, ih, List.mem_cons, eq_comm]

theorem disjoint_of_bits {ms ns : List Nat} (h : bits ms &&& bits ns = 0) : ms.Disjoint ns := by
  intro n hm hn
  have hbit : (bits ms &&& bits ns).testBit n := by
    rw [Nat.testBit_and, (testBit_bits ms n).2 hm, (testBit_bits ns n).2 hn]
    rfl
  rw [h, Nat.zero_testBit] at hbit
  exact absurd hbit Bool.false_ne_true

/-- The characters of a run. -/
def CaseRun.members (r : CaseRun) : List Nat :=
  (List.range' r.first (r.last + 1 - r.first)).filter r.holds

theorem CaseRun.mem_members {r : CaseRun} {n : Nat} : n ∈ r.members ↔ r.holds n := by
  unfold members
  rw [List.mem_filter, List.mem_range'_1]
  refine and_iff_right_of_imp fun h => ?_
  simp only [holds, Bool.and_eq_true, decide_eq_true_eq] at h
  omega

/-- The characters that have a case of their own. -/
def caseSources (expansions : List (Nat × List Nat)) (runs : List CaseRun) : List Nat :=
  expansions.map Prod.fst ++ runs.flatMap CaseRun.members

/-- The first characters of their cases. -/
def caseTargets (expansions : List (Nat × List Nat)) (runs : List CaseRun) : List Nat :=
  expansions.map (fun e => e.2.headD 0) ++
    runs.flatMap fun r => r.members.map fun n => r.target + (n - r.first)

section Table

variable {expansions : List (Nat × List Nat)} {runs : List CaseRun}

theorem caseOf_eq_self {c : Char} (hc : c.toNat ∉ caseSources expansions runs) :
    caseOf expansions runs c = [c] := by
  obtain ⟨hexpansions, hruns⟩ := not_or.1 (mt List.mem_append.2 hc)
  have hlookup : expansions.lookup c.toNat = none := by
    rw [List.lookup_eq_none_iff]
    intro e he
    rw [bne_iff_ne]
    intro h
    exact hexpansions (List.mem_map.2 ⟨e, he, h.symm⟩)
  have hfind : runs.find? (·.holds c.toNat) = none := by
    rw [List.find?_eq_none]
    intro r hr h
    exact hruns (List.mem_flatMap.2 ⟨r, hr, CaseRun.mem_members.2 h⟩)
  rw [caseOf, hlookup, hfind]

/-- A character is its own case, or its case begins with what the table leads to. -/
theorem caseOf_eq_self_or (hne : ∀ e ∈ expansions, e.2 ≠ []) (c : Char) :
    caseOf expansions runs c = [c] ∨ ∃ n ∈ caseTargets expansions runs, ∃ rest,
      caseOf expansions runs c = Char.ofNat n :: rest := by
  unfold caseOf
  split
  · next image hlookup =>
    obtain ⟨before, behind, hl, -⟩ := List.lookup_eq_some_iff.1 hlookup
    have he : (c.toNat, image) ∈ expansions := by rw [hl]; simp
    obtain ⟨n, rest, rfl⟩ : ∃ n rest, image = n :: rest := List.exists_cons_of_ne_nil (hne _ he)
    exact .inr ⟨n, List.mem_append_left _ (List.mem_map.2 ⟨_, he, rfl⟩), rest.map Char.ofNat, rfl⟩
  · split
    · next r hfind =>
      have hr : c.toNat ∈ r.members := CaseRun.mem_members.2 (by simpa using List.find?_some hfind)
      refine .inr ⟨_, List.mem_append_right _ (List.mem_flatMap.2 ⟨r, ?_, ?_⟩), [], rfl⟩
      · exact List.mem_of_find?_eq_some hfind
      · exact List.mem_map.2 ⟨c.toNat, hr, rfl⟩
    · exact .inl rfl

/-- A table that changes nothing that it leads to. A number that is no code point stands for the
null character, so that one has to stay as well. -/
structure IsSettled (expansions : List (Nat × List Nat)) (runs : List CaseRun) : Prop where
  ne_nil : ∀ e ∈ expansions, e.2 ≠ []
  disjoint : (0 :: caseTargets expansions runs).Disjoint (caseSources expansions runs)

theorem IsSettled.exists_caseOf_eq_cons (h : IsSettled expansions runs) (c : Char) :
    ∃ d rest, caseOf expansions runs c = d :: rest ∧ caseOf expansions runs d = [d] := by
  rcases caseOf_eq_self_or h.ne_nil c with hc | ⟨n, hn, rest, hc⟩
  · exact ⟨c, [], hc, hc⟩
  · refine ⟨Char.ofNat n, rest, hc, caseOf_eq_self ?_⟩
    apply h.disjoint
    rw [Char.toNat_ofNat]
    split
    · exact List.mem_cons_of_mem 0 hn
    · exact List.mem_cons_self

end Table

theorem isSettled_upper : IsSettled upperExpansions upperRuns where
  ne_nil := by decide +kernel
  disjoint := disjoint_of_bits (by decide +kernel)

theorem isSettled_lower : IsSettled lowerExpansions lowerRuns where
  ne_nil := by decide +kernel
  disjoint := disjoint_of_bits (by decide +kernel)

/-- An upper case begins with a character that is its own upper case. -/
theorem exists_upperCase_eq_cons (c : Char) :
    ∃ d rest, upperCase c = d :: rest ∧ upperCase d = [d] :=
  isSettled_upper.exists_caseOf_eq_cons c

theorem exists_lowerCase_eq_cons (c : Char) :
    ∃ d rest, lowerCase c = d :: rest ∧ lowerCase d = [d] :=
  isSettled_lower.exists_caseOf_eq_cons c

theorem upperCase_of_isLower {c : Char} (h : c.isLower) : upperCase c = [c.toUpper] := by
  have hall : ∀ n < 26,
      upperCase (Char.ofNat (0x61 + n)) = [(Char.ofNat (0x61 + n)).toUpper] := by decide +kernel
  simp only [Char.isLower, Bool.and_eq_true, decide_eq_true_eq] at h
  have hfirst : 0x61 ≤ c.toNat := h.1
  have hlast : c.toNat ≤ 0x7A := h.2
  have hc := hall (c.toNat - 0x61) (by omega)
  rwa [Nat.add_sub_cancel' hfirst, Char.ofNat_toNat] at hc

theorem lowerCase_of_isUpper {c : Char} (h : c.isUpper) : lowerCase c = [c.toLower] := by
  have hall : ∀ n < 26,
      lowerCase (Char.ofNat (0x41 + n)) = [(Char.ofNat (0x41 + n)).toLower] := by decide +kernel
  simp only [Char.isUpper, decide_eq_true_eq] at h
  have hfirst : 0x41 ≤ c.toNat := h.1
  have hlast : c.toNat ≤ 0x5A := h.2
  have hc := hall (c.toNat - 0x41) (by omega)
  rwa [Nat.add_sub_cancel' hfirst, Char.ofNat_toNat] at hc

/-- A capital letter is the upper case of its small letter, and so its own. -/
theorem upperCase_of_isAlpha {c : Char} (h : c.isAlpha) : upperCase c = [c.toUpper] := by
  by_cases hc : c.isLower
  · exact upperCase_of_isLower hc
  · have hlower : c.toLower.isLower := by rwa [Char.isLower_toLower_eq_isAlpha]
    obtain ⟨d, rest, hd, hfixed⟩ := exists_upperCase_eq_cons c.toLower
    rw [upperCase_of_isLower hlower, Char.toUpper_toLower_eq_toUpper,
      Char.toUpper_eq_of_not_isLower hc] at hd
    rw [Char.toUpper_eq_of_not_isLower hc, (List.cons.inj hd).1, hfixed]

theorem lowerCase_of_isAlpha {c : Char} (h : c.isAlpha) : lowerCase c = [c.toLower] := by
  by_cases hc : c.isUpper
  · exact lowerCase_of_isUpper hc
  · have hupper : c.toUpper.isUpper := by rwa [Char.isUpper_toUpper_eq_isAlpha]
    obtain ⟨d, rest, hd, hfixed⟩ := exists_lowerCase_eq_cons c.toUpper
    rw [lowerCase_of_isUpper hupper, Char.toLower_toUpper_eq_toLower,
      Char.toLower_eq_of_not_isUpper hc] at hd
    rw [Char.toLower_eq_of_not_isUpper hc, (List.cons.inj hd).1, hfixed]

end DtoInterfaces.Text
