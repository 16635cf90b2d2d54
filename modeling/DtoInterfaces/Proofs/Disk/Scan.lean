import DtoInterfaces.Proofs.Disk.Selection
import Mathlib.Data.List.Sort

namespace DtoInterfaces

namespace Glob

theorem slashed_slashed (pattern : RawText) : slashed (slashed pattern) = slashed pattern := by
  rw [slashed, slashed, List.map_map]
  refine List.map_congr_left fun c _ => ?_
  by_cases hc : c = .char '\\' <;> simp [hc]

theorem expand_eq_ite (d : Disk) (base : Path) (pattern : RawText) : expand d base pattern =
    if (Path.ofText (slashed pattern)).isAbsolute then
      expandAbsolute d (Path.ofText (slashed pattern))
    else expandRelative d base (slashed pattern) :=
  rfl

theorem expand_slashed (d : Disk) (base : Path) (pattern : RawText) :
    expand d base (slashed pattern) = expand d base pattern := by
  rw [expand_eq_ite, expand_eq_ite, slashed_slashed]

end Glob

namespace Disk

open Glob

variable {d : Disk} {l : Location}

/-- Where the file is that a path leads to. -/
def fileLocation? (d : Disk) (p : Path) : Option Location :=
  match d.locate p with
  | .ok l => if d.isFileAt l then some l else none
  | .error _ => none

theorem fileLocation?_eq_some_iff {p : Path} :
    d.fileLocation? p = some l ↔ d.isFileAt l ∧ d.locate p = .ok l := by
  rw [fileLocation?]
  cases d.locate p with
  | error fault => simp
  | ok k =>
    simp only [Option.ite_none_right_eq_some, Option.some.injEq, Except.ok.injEq]
    exact ⟨fun ⟨hk, hkl⟩ => ⟨hkl ▸ hk, hkl⟩, fun ⟨hl, hkl⟩ => ⟨hkl ▸ hl, hkl⟩⟩

section Expansion

variable {ε ε' : Type}

/-- A scan that expands each pattern into paths as it is told. -/
def scanWith (d : Disk) (expansion : RawText → Except ε (List Path)) (patterns : List RawText) :
    Except ε (List Location) := do
  let found ← (patterns.filter fun pattern => !pattern.isEmpty).mapM fun pattern =>
    expansion (slashed pattern)
  return inOrder (found.flatten.filterMap d.fileLocation?)

/-- Whether no pattern is refused. Empty patterns are not looked at. -/
def Expands (expansion : RawText → Except ε (List Path)) (patterns : List RawText) : Prop :=
  ∀ pattern ∈ patterns, pattern ≠ [] → ∃ paths, expansion (slashed pattern) = .ok paths

/-- Whether one of the patterns is expanded into a path that leads to `l`. -/
def Matched (d : Disk) (expansion : RawText → Except ε (List Path)) (patterns : List RawText)
    (l : Location) : Prop :=
  ∃ pattern ∈ patterns, pattern ≠ [] ∧
    ∃ paths, expansion (slashed pattern) = .ok paths ∧ ∃ p ∈ paths, d.locate p = .ok l

/-- The files that the patterns match, each once and in order. -/
structure ListsMatched (d : Disk) (expansion : RawText → Except ε (List Path))
    (patterns : List RawText) (found : List Location) : Prop where
  increasing : found.Pairwise (· < ·)
  mem_iff : ∀ l, l ∈ found ↔ d.isFileAt l ∧ d.Matched expansion patterns l

variable {expansion : RawText → Except ε (List Path)} {expansion' : RawText → Except ε' (List Path)}
  {P Q : List RawText} {found found' : List Location}

theorem pairwise_lt_inOrder (found : List Location) : (inOrder found).Pairwise (· < ·) :=
  Text.pairwise_lt_mergeSort (Text.nodup_distinct found)

theorem exists_scanWith_eq_ok (d : Disk) (h : Expands expansion P) :
    ∃ found, d.scanWith expansion P = .ok found ∧ d.ListsMatched expansion P found := by
  have hall : ∀ pattern ∈ P.filter fun pattern => !pattern.isEmpty,
      ∃ paths, expansion (slashed pattern) = .ok paths := by
    intro pattern hpattern
    obtain ⟨hmem, hne⟩ := List.mem_filter.1 hpattern
    exact h pattern hmem (by simpa using hne)
  obtain ⟨paths, hpaths⟩ := exists_mapM_eq_ok hall
  refine ⟨inOrder (paths.flatten.filterMap d.fileLocation?), ?_, pairwise_lt_inOrder _, fun l => ?_⟩
  · rw [scanWith, hpaths]
    rfl
  · simp only [mem_inOrder, List.mem_filterMap, List.mem_flatten, fileLocation?_eq_some_iff,
      mem_iff_of_mapM hpaths, List.mem_filter]
    constructor
    · rintro ⟨p, ⟨ps, ⟨pattern, ⟨hmem, hne⟩, hps⟩, hp⟩, hfile, hl⟩
      exact ⟨hfile, pattern, hmem, by simpa using hne, ps, hps, p, hp, hl⟩
    · rintro ⟨hfile, pattern, hmem, hne, ps, hps, p, hp, hl⟩
      exact ⟨p, ⟨ps, ⟨pattern, ⟨hmem, by simpa using hne⟩, hps⟩, hp⟩, hfile, hl⟩

theorem expands_append : Expands expansion (P ++ Q) ↔ Expands expansion P ∧ Expands expansion Q :=
  List.forall_mem_append

theorem matched_append : d.Matched expansion (P ++ Q) l ↔
    d.Matched expansion P l ∨ d.Matched expansion Q l := by
  simp only [Matched, List.mem_append, or_and_right, exists_or]

/-- Empty patterns neither are refused nor match anything. -/
theorem expands_congr (h : ∀ pattern, pattern ≠ [] → (pattern ∈ Q ↔ pattern ∈ P))
    (hP : Expands expansion P) : Expands expansion Q :=
  fun pattern hmem hne => hP pattern ((h pattern hne).1 hmem) hne

theorem matched_congr (h : ∀ pattern, pattern ≠ [] → (pattern ∈ Q ↔ pattern ∈ P)) :
    d.Matched expansion Q l ↔ d.Matched expansion P l := by
  refine exists_congr fun pattern => ?_
  rw [← and_assoc, ← and_assoc]
  exact and_congr_left fun _ => and_congr_left_iff.2 (h pattern)

/-- There is one list at most of the files that are matched. -/
theorem ListsMatched.eq (h : d.ListsMatched expansion P found)
    (h' : d.ListsMatched expansion' Q found')
    (hfiles : ∀ l, d.isFileAt l → (d.Matched expansion P l ↔ d.Matched expansion' Q l)) :
    found = found' :=
  h.increasing.eq_of_mem_iff h'.increasing fun l => by
    rw [h.mem_iff, h'.mem_iff, and_congr_right (hfiles l)]

end Expansion

theorem isSome_of_mem_entries {e : Entry} (h : (l, e) ∈ d.entries) : (d.get? l).isSome := by
  cases l with
  | nil => rfl
  | cons n l =>
    refine Option.isSome_iff_ne_none.2 fun hnone => ?_
    simpa using List.lookup_eq_none_iff.1 hnone _ h

/-- A component selects nothing but what is there. -/
theorem isSome_of_mem_componentSelect {filesToo : Bool} {directories : List Location}
    (hdirectories : ∀ k ∈ directories, (d.get? k).isSome) (c : Component)
    (hl : l ∈ c.select d filesToo directories) : (d.get? l).isSome := by
  cases c with
  | below =>
    rcases List.mem_append.1 hl with hl | hl
    · exact hdirectories l hl
    · obtain ⟨⟨k, e⟩, hk, hkl⟩ := List.mem_filterMap.1 hl
      obtain ⟨-, rfl⟩ : _ ∧ k = l := by simpa using hkl
      exact isSome_of_mem_entries hk
  | wild pieces =>
    obtain ⟨⟨k, e⟩, hk, hkl⟩ := List.mem_filterMap.1 hl
    obtain ⟨-, rfl⟩ : _ ∧ k = l := by simpa using hkl
    exact isSome_of_mem_entries (List.mem_filter.1 hk).1
  | name n =>
    have hany := (List.mem_filter.1 (Text.mem_distinct.1 hl)).2
    obtain ⟨e, he, -⟩ := (Option.any_eq_true _ _).1 hany
    rw [he]
    rfl

theorem isSome_of_mem_select {onlyDirectories : Bool} {components : List Component}
    {directories : List Location} (hdirectories : ∀ k ∈ directories, (d.get? k).isSome)
    (hl : l ∈ select d onlyDirectories components directories) : (d.get? l).isSome := by
  induction components generalizing directories with
  | nil => exact hdirectories l hl
  | cons c rest ih => exact ih (fun k hk => isSome_of_mem_componentSelect hdirectories c hk) hl

theorem Plan.get?_of_mem_origins {base : Path} {p : Plan} (hl : l ∈ p.origins d base) :
    d.get? l = some .directory := by
  unfold Plan.origins at hl
  split at hl
  · split at hl
    · cases hl
    · obtain rfl := List.mem_singleton.1 hl
      rfl
  · split at hl
    · split at hl
      · next hdirectory =>
        obtain rfl := List.mem_singleton.1 hl
        exact hdirectory
      · cases hl
    · cases hl

theorem isSome_of_mem_found {base : Path} {p : Plan} (hl : l ∈ p.found d base) :
    (d.get? l).isSome := by
  refine isSome_of_mem_select (fun k hk => ?_) hl
  rw [Plan.get?_of_mem_origins hk]
  rfl

theorem isSome_of_mem_expand {base : Path} {pattern : RawText} {found : List Location}
    (h : expand d base pattern = .ok found) (hl : l ∈ found) : (d.get? l).isSome := by
  rw [expand_eq] at h
  cases hp : Plan.ofText pattern with
  | error fault =>
    rw [hp] at h
    cases h
  | ok p =>
    rw [hp] at h
    obtain rfl := Except.ok.inj h
    exact isSome_of_mem_found hl

theorem IsTree.fileLocation?_path (h : d.IsTree) (hl : (d.get? l).isSome) :
    d.fileLocation? l.path = if d.isFileAt l then some l else none := by
  obtain ⟨e, he⟩ := Option.isSome_iff_exists.1 hl
  have hlocate : d.locate l.path = .ok l := h.walk_eq l [] (by simpa using he)
  rw [fileLocation?, hlocate]

/-- What a glob pattern is expanded into, as absolute paths. -/
def globPaths (d : Disk) (base : Path) (pattern : RawText) : Except GlobFault (List Path) :=
  (expand d base pattern).map (List.map Location.path)

theorem scan_eq_scanWith (h : d.IsTree) (base : Path) (patterns : List RawText) :
    d.scan base patterns = d.scanWith (d.globPaths base) patterns := by
  have hexpansion : (fun pattern => d.globPaths base (slashed pattern)) =
      fun pattern => (expand d base pattern).map (List.map Location.path) := by
    funext pattern
    rw [globPaths, expand_slashed]
  rw [scan, scanWith, hexpansion, mapM_except_map]
  cases hfound : (patterns.filter fun pattern => !pattern.isEmpty).mapM (expand d base) with
  | error fault => rfl
  | ok found =>
    have hexists : ∀ l ∈ found.flatten, (d.get? l).isSome := by
      intro l hl
      obtain ⟨locations, hlocations, hl⟩ := List.mem_flatten.1 hl
      obtain ⟨pattern, -, hpattern⟩ := (mem_iff_of_mapM hfound).1 hlocations
      exact isSome_of_mem_expand hpattern hl
    have hfiles : (found.map (List.map Location.path)).flatten.filterMap d.fileLocation? =
        found.flatten.filter d.isFileAt := by
      rw [← List.map_flatten, List.filterMap_map, ← List.filterMap_eq_filter]
      exact List.filterMap_congr fun l hl => h.fileLocation?_path (hexists l hl)
    change Except.ok (inOrder _) = Except.ok (inOrder _)
    rw [hfiles]

/-- A scan of a tree is a scan by what glob patterns are expanded into. With any expansion, if no
pattern is refused, a scan gives the files that are matched, strictly increasing. So any patterns
and any expansion by which the same files are matched give the same: it does not matter in which
order the patterns stand, how often, or whether there are empty ones. More patterns give the files
of both. -/
theorem scan_lists_matched (d : Disk) :
    (d.IsTree → ∀ base patterns, d.scan base patterns = d.scanWith (d.globPaths base) patterns) ∧
      ∀ {ε : Type} (expansion : RawText → Except ε (List Path)) (P : List RawText),
        Expands expansion P →
        ∃ found, d.scanWith expansion P = .ok found ∧ d.ListsMatched expansion P found ∧
          (∀ {ε' : Type} (expansion' : RawText → Except ε' (List Path)) (P' : List RawText),
            Expands expansion' P' →
            (∀ l, d.isFileAt l → (d.Matched expansion' P' l ↔ d.Matched expansion P l)) →
            d.scanWith expansion' P' = .ok found) ∧
          (∀ P', (∀ pattern, pattern ≠ [] → (pattern ∈ P' ↔ pattern ∈ P)) →
            d.scanWith expansion P' = .ok found) ∧
          ∀ Q, Expands expansion Q → ∃ found' both, d.scanWith expansion Q = .ok found' ∧
            d.scanWith expansion (P ++ Q) = .ok both ∧ ∀ l, l ∈ both ↔ l ∈ found ∨ l ∈ found' := by
  refine ⟨fun h => scan_eq_scanWith h, fun {ε} expansion P hP => ?_⟩
  obtain ⟨found, hscan, hfound⟩ := exists_scanWith_eq_ok d hP
  have hsame {ε' : Type} (expansion' : RawText → Except ε' (List Path)) (P' : List RawText)
      (hP' : Expands expansion' P')
      (hfiles : ∀ l, d.isFileAt l → (d.Matched expansion' P' l ↔ d.Matched expansion P l)) :
      d.scanWith expansion' P' = .ok found := by
    obtain ⟨found', hscan', hfound'⟩ := exists_scanWith_eq_ok d hP'
    rw [hscan', hfound'.eq hfound hfiles]
  refine ⟨found, hscan, hfound, hsame, fun P' hmem => ?_, fun Q hQ => ?_⟩
  · exact hsame expansion P' (expands_congr hmem hP) fun l _ => matched_congr hmem
  · obtain ⟨found', hscan', hfound'⟩ := exists_scanWith_eq_ok d hQ
    obtain ⟨both, hboth, hlists⟩ := exists_scanWith_eq_ok d (expands_append.2 ⟨hP, hQ⟩)
    refine ⟨found', both, hscan', hboth, fun l => ?_⟩
    rw [hlists.mem_iff, hfound.mem_iff, hfound'.mem_iff, matched_append, and_or_left]

/-- A file in a directory. -/
def sourceDisk : Disk where
  entries := [(["src"], .directory), (["src", "a.cs"], .file [])]
  here := []

/-- An expansion that spells one file in different ways, and gives a directory as well. -/
def spellings (pattern : RawText) : Except GlobFault (List Path) :=
  if pattern = "src/*" then .ok [Path.ofText "src/../src", Path.ofText "/src/a.cs"]
  else .ok [Path.ofText "src/../src/a.cs", Path.ofText "src/./a.cs"]

/-- The file is found once, whatever the patterns and the spellings. -/
theorem scan_lists_matched_source :
    sourceDisk.IsTree ∧ sourceDisk.isFileAt ["src", "a.cs"] ∧
      sourceDisk.scan (Path.ofText ".") ["src/*.cs"] = .ok [["src", "a.cs"]] ∧
      sourceDisk.scanWith spellings ["src\\*", "", "**/*.cs"] = .ok [["src", "a.cs"]] ∧
      sourceDisk.scanWith spellings ["**/*.cs", "src\\*", "**/*.cs"] = .ok [["src", "a.cs"]] ∧
      ∃ both, sourceDisk.scanWith spellings ["src\\*", "", "**/*.cs", "src/*"] = .ok both ∧
        ∀ l, l ∈ both ↔ l ∈ ([["src", "a.cs"]] : List Location) := by
  have htree : sourceDisk.IsTree := by decide +kernel
  have hexpands (P : List RawText) : Expands spellings P := by
    intro pattern _ _
    rw [spellings]
    split <;> exact ⟨_, rfl⟩
  have hglob : sourceDisk.globPaths (Path.ofText ".") (slashed "src/*.cs") =
      .ok [Path.ofText "/src/a.cs"] := by decide +kernel
  have hexpandsGlob : Expands (sourceDisk.globPaths (Path.ofText ".")) ["src/*.cs"] := by
    intro pattern hpattern _
    rw [List.mem_singleton.1 hpattern]
    exact ⟨_, hglob⟩
  have hfile : ∀ l, sourceDisk.isFileAt l → l = (["src", "a.cs"] : Location) := by
    intro l hl
    obtain ⟨octets, hget⟩ := exists_octets_of_isFileAt hl
    have hne : l ≠ [] := by
      rintro rfl
      cases hget
    have hmem := mem_entries_of_get? hne hget
    simp only [sourceDisk, List.mem_cons, Prod.mk.injEq, reduceCtorEq, and_false, false_or,
      List.not_mem_nil, or_false] at hmem
    exact hmem.1
  have hspelled : sourceDisk.Matched spellings ["src\\*", "", "**/*.cs"] ["src", "a.cs"] :=
    ⟨"**/*.cs", by simp, by decide, [Path.ofText "src/../src/a.cs", Path.ofText "src/./a.cs"],
      by decide +kernel, Path.ofText "src/./a.cs", by simp, by decide +kernel⟩
  have hglobbed : sourceDisk.Matched (sourceDisk.globPaths (Path.ofText ".")) ["src/*.cs"]
      ["src", "a.cs"] :=
    ⟨"src/*.cs", by simp, by decide, _, hglob, Path.ofText "/src/a.cs", by simp, by decide +kernel⟩
  have hscan : sourceDisk.scanWith spellings ["src\\*", "", "**/*.cs"] =
      .ok [["src", "a.cs"]] := by decide +kernel
  obtain ⟨htreeScan, hall⟩ := scan_lists_matched sourceDisk
  obtain ⟨found, hfound, -, hsame, hmembers, hunion⟩ :=
    hall spellings ["src\\*", "", "**/*.cs"] (hexpands _)
  obtain rfl := Except.ok.inj (hscan.symm.trans hfound)
  refine ⟨htree, by decide +kernel, ?_, hscan, hmembers _ ?_, ?_⟩
  · rw [htreeScan htree]
    refine hsame _ _ hexpandsGlob fun l hl => ?_
    rw [hfile l hl]
    exact iff_of_true hglobbed hspelled
  · intro pattern hne
    simp [hne, or_comm]
  · obtain ⟨found', both, hfound', hboth, hmem⟩ := hunion ["src/*"] (hexpands _)
    refine ⟨both, hboth, fun l => ?_⟩
    have hsrc : sourceDisk.scanWith spellings ["src/*"] = .ok [["src", "a.cs"]] := by
      decide +kernel
    obtain rfl := Except.ok.inj (hsrc.symm.trans hfound')
    simpa using hmem l

end Disk

end DtoInterfaces
