import DtoInterfaces.Disk.Access
import DtoInterfaces.Disk.Glob
import DtoInterfaces.Proofs.Text.Distinct
import DtoInterfaces.Proofs.Text.Lines
import Mathlib.Data.List.Induction

namespace DtoInterfaces

/-- A name that leads down by one directory: not empty, no step that stays or goes up, and without
a slash. -/
def IsEntryName (n : RawText) : Prop := n ≠ [] ∧ n ≠ "." ∧ n ≠ ".." ∧ .char '/' ∉ n

instance (n : RawText) : Decidable (IsEntryName n) :=
  inferInstanceAs (Decidable (n ≠ [] ∧ n ≠ "." ∧ n ≠ ".." ∧ .char '/' ∉ n))

/-- An absolute path is the same when it was written out and read again. -/
theorem Path.ofText_toText_path {l : Location} (hl : ∀ n ∈ l, IsEntryName n) :
    Path.ofText l.path.toText = l.path := by
  cases l with
  | nil => rfl
  | cons n l =>
    have htext : (Location.path (n :: l)).toText = .char '/' :: Text.join "/" (n :: l) := rfl
    have hroot : (Text.join "/" (n :: l)).takeWhile (· == .char '/') = [] := by
      obtain ⟨hne, -, -, hslash⟩ := hl n List.mem_cons_self
      obtain ⟨c, n, rfl⟩ := List.exists_cons_of_ne_nil hne
      have hc : c ≠ .char '/' := fun hc => hslash (hc ▸ List.mem_cons_self)
      cases l <;> simp [Text.join, hc]
    have hparts : (Text.join [.char '/'] ([] :: n :: l)).splitOn (.char '/') = [] :: n :: l := by
      refine Text.splitOn_join (by simp) fun m hm => ?_
      rcases List.mem_cons.1 hm with rfl | hm
      · exact List.not_mem_nil
      · exact (hl m hm).2.2.2
    replace hparts : (.char '/' :: Text.join "/" (n :: l)).splitOn (.char '/') = [] :: n :: l :=
      hparts
    have hkept : (n :: l).filter (fun part => part != [] && part != ".") = n :: l := by
      refine List.filter_eq_self.2 fun m hm => ?_
      obtain ⟨hne, hdot, -, -⟩ := hl m hm
      simp only [Bool.and_eq_true, bne_iff_ne]
      exact ⟨hne, hdot⟩
    rw [htext, Path.ofText, hparts, List.filter_cons, hkept, List.takeWhile_cons, hroot]
    rfl

namespace Disk

/-- Every entry stands in a directory and has names that lead to it. -/
structure IsTree (d : Disk) : Prop where
  names : ∀ e ∈ d.entries, ∀ n ∈ e.1, IsEntryName n
  above : ∀ e ∈ d.entries, d.get? e.1.dropLast = some .directory

instance (d : Disk) : Decidable d.IsTree :=
  decidable_of_iff ((∀ e ∈ d.entries, ∀ n ∈ e.1, IsEntryName n) ∧
    ∀ e ∈ d.entries, d.get? e.1.dropLast = some .directory)
    ⟨fun h => ⟨h.1, h.2⟩, fun h => ⟨h.names, h.above⟩⟩

variable {d : Disk}

theorem walk_cons {k : Location} (hk : d.get? k = some .directory) (part : RawText)
    (parts : List RawText) : d.walk k (part :: parts) = d.walk (k.step part) parts := by
  rw [walk, hk]

theorem walk_cons_eq_ok_iff {part : RawText} {parts : List RawText} {k m : Location} :
    d.walk k (part :: parts) = .ok m ↔
      d.get? k = some .directory ∧ d.walk (k.step part) parts = .ok m := by
  rw [walk]
  cases d.get? k with
  | none => simp
  | some e => cases e <;> simp

theorem find?_eq_some_iff {p : Path} {e : Entry} :
    d.find? p = some e ↔ ∃ m, d.locate p = .ok m ∧ d.get? m = some e := by
  rw [find?]
  cases d.locate p <;> simp

theorem mem_entries_of_get? {l : Location} {e : Entry} (hl : l ≠ []) (h : d.get? l = some e) :
    (l, e) ∈ d.entries := by
  cases l with
  | nil => exact absurd rfl hl
  | cons n l =>
    obtain ⟨l₁, l₂, hd, -⟩ := List.lookup_eq_some_iff.1 h
    rw [hd]
    exact List.mem_append_right _ List.mem_cons_self

namespace IsTree

theorem isEntryName (h : d.IsTree) {l : Location} {e : Entry} (hl : d.get? l = some e) :
    ∀ n ∈ l, IsEntryName n := by
  by_cases hne : l = []
  · simp [hne]
  · exact h.names (l, e) (mem_entries_of_get? hne hl)

/-- Above every entry there are directories. -/
theorem get?_of_prefix (h : d.IsTree) {l k : Location} {e : Entry} (hl : d.get? l = some e)
    (hk : k <+: l) (hne : k ≠ l) : d.get? k = some .directory := by
  induction l using List.reverseRecOn generalizing e with
  | nil => exact absurd (List.prefix_nil.1 hk) hne
  | append_singleton l n ih =>
    have hd : d.get? l = some .directory := by
      simpa using h.above _ (mem_entries_of_get? (by simp) hl)
    rcases List.prefix_concat_iff.1 hk with rfl | hk
    · exact absurd rfl hne
    · by_cases hkl : k = l
      · rw [hkl, hd]
      · exact ih hd hk hkl

theorem walk_eq (h : d.IsTree) (parts k : Location) {e : Entry}
    (hl : d.get? (k ++ parts) = some e) : d.walk k parts = .ok (k ++ parts) := by
  induction parts generalizing k with
  | nil => simp [walk]
  | cons n parts ih =>
    have hk : d.get? k = some .directory :=
      h.get?_of_prefix hl (List.prefix_append k _) (by simp)
    have hn : n ≠ ".." := (h.isEntryName hl n (by simp)).2.2.1
    have he : k ++ n :: parts = k ++ [n] ++ parts := by simp
    rw [he] at hl ⊢
    rw [walk_cons hk, ← ih (k ++ [n]) hl, Location.step, if_neg hn]

/-- The absolute path of an entry leads to it. -/
theorem find?_path (h : d.IsTree) {l : Location} {e : Entry} (hl : d.get? l = some e) :
    d.find? l.path = some e := by
  have hw : d.locate l.path = .ok l := h.walk_eq l [] (by simpa using hl)
  rw [find?, hw]
  exact hl

theorem octets?_path (h : d.IsTree) {l : Location} {octets : List UInt8}
    (hl : d.get? l = some (.file octets)) : d.octets? l.path = some octets := by
  rw [octets?, h.find?_path hl]

end IsTree

theorem exists_octets_of_isFileAt {l : Location} (h : d.isFileAt l) :
    ∃ octets, d.get? l = some (.file octets) := by
  unfold isFileAt at h
  split at h
  · next octets hl => exact ⟨octets, hl⟩
  · cases h

/-- A scan selects nothing but files. -/
theorem exists_octets_of_mem_scan {base : Path} {patterns : List RawText} {found : List Location}
    (h : d.scan base patterns = .ok found) {l : Location} (hl : l ∈ found) :
    ∃ octets, d.get? l = some (.file octets) := by
  rw [scan] at h
  generalize (patterns.filter fun pattern => !pattern.isEmpty).mapM (Glob.expand d base) = globs
    at h
  cases globs with
  | error fault => cases h
  | ok locations =>
    cases h
    have hm := Text.mem_distinct.1 (List.mem_mergeSort.1 hl)
    exact exists_octets_of_isFileAt (List.mem_filter.1 hm).2

end Disk

end DtoInterfaces
