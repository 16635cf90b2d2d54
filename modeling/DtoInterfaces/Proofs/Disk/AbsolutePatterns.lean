import DtoInterfaces.Proofs.Disk.Scan
import Mathlib.Data.List.DropRight

namespace DtoInterfaces

namespace Path

theorem isAbsolute_ofText (t : RawText) :
    (ofText t).isAbsolute = (t.head? == some (.char '/')) := by
  cases t with
  | nil => rfl
  | cons c t =>
    by_cases hc : c = .char '/'
    · subst hc
      simp only [isAbsolute, ofText]
      split <;> simp
    · simp [isAbsolute, ofText, hc]

theorem parts_ofText_append (s t : RawText) :
    (ofText (s ++ .char '/' :: t)).parts = (ofText s).parts ++ (ofText t).parts := by
  simp only [ofText, List.splitOn_append_cons_self, List.filter_append]

theorem parts_ofText_slashes {t : RawText} (h : ∀ c ∈ t, c = .char '/') :
    (ofText t).parts = [] := by
  induction t with
  | nil => rfl
  | cons c t ih =>
    obtain ⟨rfl, ht⟩ := List.forall_mem_cons.1 h
    exact (parts_ofText_append [] t).trans (ih ht)

/-- Slashes at the end make no part. -/
theorem parts_ofText_append_slashes (s : RawText) {t : RawText} (h : ∀ c ∈ t, c = .char '/') :
    (ofText (s ++ t)).parts = (ofText s).parts := by
  cases t with
  | nil => rw [List.append_nil]
  | cons c t =>
    obtain ⟨rfl, ht⟩ := List.forall_mem_cons.1 h
    rw [parts_ofText_append, parts_ofText_slashes ht, List.append_nil]

end Path

namespace Glob

open Disk

/-- Whether all characters stand for themselves in a pattern: none is a wildcard, or a backslash,
which stands for a slash. -/
def IsPlain (t : RawText) : Prop :=
  ∀ c ∈ t, c ≠ .char '*' ∧ c ≠ .char '?' ∧ c ≠ .char '[' ∧ c ≠ .char '\\'

instance (t : RawText) : Decidable (IsPlain t) :=
  inferInstanceAs (Decidable (∀ c ∈ t, _))

theorem hasTwoStars_eq_false {t : RawText} (h : .char '*' ∉ t) : hasTwoStars t = false := by
  fun_induction hasTwoStars t with
  | case1 => simp at h
  | case2 c rest _ ih => exact ih fun hr => h (List.mem_cons_of_mem c hr)
  | case3 => rfl

theorem IsPlain.component_eq {n : RawText} (h : IsPlain n) :
    Component.ofText n = .ok (.name n) := by
  have hstar : .char '*' ∉ n := fun hn => (h _ hn).1 rfl
  have hbelow : n ≠ "**" := by
    rintro rfl
    exact hstar (by decide)
  have hwild : (n.any fun c => c == .char '*' || c == .char '?' || c == .char '[') = false := by
    refine List.any_eq_false.2 fun c hc => ?_
    obtain ⟨h1, h2, h3, -⟩ := h c hc
    simp [h1, h2, h3]
  rw [Component.ofText, if_neg hbelow, hasTwoStars_eq_false hstar, hwild]
  rfl

theorem IsPlain.slashed_eq {t : RawText} (h : IsPlain t) : slashed t = t := by
  refine (List.map_congr_left fun c hc => ?_).trans (List.map_id t)
  simp [(h c hc).2.2.2]

theorem IsPlain.of_mem_parts {t n : RawText} (h : IsPlain t) (hn : n ∈ (Path.ofText t).parts) :
    IsPlain n := by
  intro c hc
  exact h c (Text.mem_of_mem_splitOn (List.mem_filter.1 hn).1 hc)

theorem mapM_component_eq {names : List RawText} (h : ∀ n ∈ names, IsPlain n) :
    names.mapM Component.ofText = .ok (names.map .name) := by
  induction names with
  | nil => rfl
  | cons n names ih =>
    obtain ⟨hn, hnames⟩ := List.forall_mem_cons.1 h
    exact mapM_cons_eq_ok_iff.2 ⟨_, _, hn.component_eq, ih hnames, rfl⟩

variable {d : Disk} {k l : Location}

/-- A name leads to one directory at most. -/
theorem select_name (d : Disk) (k : Location) (n : RawText) :
    Component.select d false [k] (.name n) =
      if d.get? (k.step n) = some .directory then [k.step n] else [] := by
  simp only [Component.select, List.map_cons, List.map_nil, List.filter_cons, List.filter_nil]
  cases d.get? (k.step n) with
  | none => rfl
  | some e => cases e <;> rfl

/-- Names lead where a walk leads, as long as that is a directory. -/
theorem select_names_append (names : List RawText) {components : List Component}
    (hne : components ≠ []) (onlyDirectories : Bool) (hk : d.get? k = some .directory) :
    select d onlyDirectories (names.map .name ++ components) [k] =
      match d.walk k names with
      | .ok l => if d.get? l = some .directory then select d onlyDirectories components [l] else []
      | .error _ => [] := by
  induction names generalizing k with
  | nil => simp [walk, hk]
  | cons n names ih =>
    have hrest : (names.map Component.name ++ components).isEmpty = false := by simp [hne]
    rw [List.map_cons, List.cons_append, select, hrest, Bool.false_and, select_name, walk_cons hk]
    by_cases hstep : d.get? (k.step n) = some .directory
    · rw [if_pos hstep, ih hstep]
    · rw [if_neg hstep, select_nil]
      -- where no directory is the walk ends as well, or it goes on in vain
      cases hl : d.walk (k.step n) names with
      | error fault => rfl
      | ok l =>
        cases names with
        | nil =>
          obtain rfl := Except.ok.inj hl
          exact (if_neg hstep).symm
        | cons m names => exact absurd (walk_cons_eq_ok_iff.1 hl).1 hstep

/-- Names alone select at most what a walk leads to. -/
theorem walk_of_mem_select_names {names : List RawText} (hk : d.get? k = some .directory)
    (hl : l ∈ select d false (names.map .name) [k]) : d.walk k names = .ok l := by
  induction names generalizing k with
  | nil =>
    obtain rfl := List.mem_singleton.1 hl
    rfl
  | cons n names ih =>
    rw [walk_cons hk]
    rw [List.map_cons, select] at hl
    cases names with
    | nil =>
      obtain ⟨j, hj, rfl, -⟩ := mem_select_name.1 hl
      rw [List.mem_singleton.1 hj, walk]
    | cons m names =>
      rw [show ((m :: names).map Component.name).isEmpty = false from rfl, Bool.false_and,
        select_name] at hl
      split at hl
      · next hstep => exact ih hstep hl
      · rw [select_nil] at hl
        cases hl

theorem Plan.ofText_eq_ite (pattern : RawText) : Plan.ofText pattern =
    if !(Path.ofText (slashed pattern)).isAbsolute && (Path.ofText (slashed pattern)).parts.isEmpty
    then .error (if !(Path.ofText (slashed pattern)).isAbsolute &&
      (slashed pattern).getLast? == some (.char '/') then .onlySlash else .noComponent)
    else ((Path.ofText (slashed pattern)).parts.mapM Component.ofText).map fun components =>
      ⟨(Path.ofText (slashed pattern)).isAbsolute, components,
        !(Path.ofText (slashed pattern)).isAbsolute &&
          (slashed pattern).getLast? == some (.char '/')⟩ :=
  rfl

section Patterns

variable {B p : RawText}

/-- A path that begins with a slash is followed from the root directory. -/
theorem locate_of_head? (d : Disk) (hB : B.head? = some (.char '/')) :
    d.locate (Path.ofText B) = d.walk [] (Path.ofText B).parts := by
  have habsolute : (Path.ofText B).isAbsolute = true := by
    rw [Path.isAbsolute_ofText, hB]
    rfl
  rw [locate, habsolute]
  rfl

theorem slashed_append (s t : RawText) : slashed (s ++ t) = slashed s ++ slashed t :=
  List.map_append

/-- Behind the path of a directory a pattern has the names of the path in front, and a slash at its
end is lost. -/
theorem Plan.ofText_absolute (hB : B.head? = some (.char '/')) (hplain : IsPlain B) :
    Plan.ofText (B ++ .char '/' :: p) = ((Path.ofText (slashed p)).parts.mapM Component.ofText).map
      fun components => ⟨true, (Path.ofText B).parts.map .name ++ components, false⟩ := by
  have hslashed : slashed (B ++ .char '/' :: p) = B ++ .char '/' :: slashed p := by
    rw [slashed_append, hplain.slashed_eq]
    rfl
  have habsolute : (Path.ofText (B ++ .char '/' :: slashed p)).isAbsolute = true := by
    rw [Path.isAbsolute_ofText, List.head?_append, hB]
    rfl
  rw [Plan.ofText_eq_ite, hslashed, habsolute, Path.parts_ofText_append, List.mapM_append,
    mapM_component_eq fun n hn => hplain.of_mem_parts hn]
  cases (Path.ofText (slashed p)).parts.mapM Component.ofText <;> rfl

theorem Plan.ofText_relative (hp : (slashed p).head? ≠ some (.char '/'))
    (hparts : (Path.ofText (slashed p)).parts ≠ []) :
    Plan.ofText p = ((Path.ofText (slashed p)).parts.mapM Component.ofText).map
      fun components => ⟨false, components, (slashed p).getLast? == some (.char '/')⟩ := by
  have hrelative : (Path.ofText (slashed p)).isAbsolute = false := by
    rw [Path.isAbsolute_ofText]
    simpa using hp
  have hempty : (Path.ofText (slashed p)).parts.isEmpty = false := by simpa using hparts
  rw [Plan.ofText_eq_ite, hrelative, hempty]
  rfl

/-- Components behind the names of a path select what they select seen from where it leads. -/
theorem Plan.found_absolute (d : Disk) (D : Path) (hB : B.head? = some (.char '/'))
    {components : List Component} (hne : components ≠ []) :
    Plan.found d D ⟨true, (Path.ofText B).parts.map .name ++ components, false⟩ =
      Plan.found d (Path.ofText B) ⟨false, components, false⟩ := by
  have horigins : Plan.origins d D
      ⟨true, (Path.ofText B).parts.map .name ++ components, false⟩ = [[]] := by
    simp [Plan.origins, hne]
  rw [Plan.found, horigins, select_names_append _ hne _ rfl, Plan.found, Plan.origins,
    locate_of_head? d hB]
  simp only [Bool.false_eq_true, if_false]
  cases d.walk [] (Path.ofText B).parts with
  | error fault => exact (select_nil _ _).symm
  | ok l =>
    dsimp only
    split
    · rfl
    · exact (select_nil _ _).symm

/-- The names of a path alone select at most what it leads to. -/
theorem Plan.locate_of_mem_found_names {D : Path} (hB : B.head? = some (.char '/'))
    (hl : l ∈ Plan.found d D ⟨true, (Path.ofText B).parts.map .name, false⟩) :
    d.locate (Path.ofText B) = .ok l := by
  rw [locate_of_head? d hB]
  by_cases hempty : (Path.ofText B).parts = []
  · simp [Plan.found, Plan.origins, hempty, select_nil] at hl
  · rw [Plan.found, Plan.origins, if_pos rfl, if_neg (by simpa using hempty)] at hl
    exact walk_of_mem_select_names rfl hl

/-- A scan by one pattern. -/
theorem scan_singleton (d : Disk) (base : Path) (hp : p ≠ []) :
    d.scan base [p] = (Plan.ofText p).map fun plan =>
      inOrder ((plan.found d base).filter d.isFileAt) := by
  have hempty : p.isEmpty = false := by simpa using hp
  rw [scan_eq, plans]
  simp only [List.filter_cons, hempty, Bool.not_false, if_true, List.filter_nil]
  cases hplan : Plan.ofText p with
  | error fault => simp [hplan, bind, Except.bind, Except.map]
  | ok plan => simp [hplan, bind, Except.bind, Except.map, pure, Except.pure]

/-- With a slash at the end nothing but directories is reached. -/
theorem Reaches.eq_directory {components : List Component} (hk : d.get? k = some .directory)
    (hl : Reaches d true components k l) : d.get? l = some .directory := by
  induction components generalizing k with
  | nil =>
    obtain rfl := hl
    exact hk
  | cons c rest ih =>
    obtain ⟨j, hj, hl⟩ := hl
    rw [Bool.not_true, Bool.and_false] at hj
    refine ih ?_ hl
    have hadmits (h : d.Admits false j) : d.get? j = some .directory := by
      obtain ⟨e, he, hfalse | rfl⟩ := h
      · cases hfalse
      · exact he
    cases c with
    | below =>
      rcases hj with rfl | ⟨-, hj⟩
      · exact hk
      · exact hj
    | wild pieces =>
      obtain ⟨n, -, -, hj⟩ := hj
      exact hadmits hj
    | name n => exact hadmits hj.2

theorem isFileAt_eq_false (hl : d.get? l = some .directory) : d.isFileAt l = false := by
  rw [isFileAt, hl]

theorem inOrder_filter_eq_nil {found : List Location}
    (h : ∀ l ∈ found, d.get? l = some .directory) : inOrder (found.filter d.isFileAt) = [] := by
  have hnone : found.filter d.isFileAt = [] :=
    List.filter_eq_nil_iff.2 fun l hl => by simp [isFileAt_eq_false (h l hl)]
  simp [hnone, inOrder, Text.distinct]

theorem slashed_eq_slashes {s : RawText} (hs : ∀ c ∈ s, c = .char '/' ∨ c = .char '\\') :
    ∀ c ∈ slashed s, c = .char '/' := by
  refine List.forall_mem_map.2 fun c hc => ?_
  rcases hs c hc with rfl | rfl <;> rfl

theorem getLast?_slashed {s : RawText} (hs : ∀ c ∈ s, c = .char '/' ∨ c = .char '\\')
    (hne : s ≠ []) : (slashed (p ++ s)).getLast? = some (.char '/') := by
  have hne' : slashed s ≠ [] := by simpa [slashed] using hne
  rw [slashed_append, List.getLast?_append_of_ne_nil _ hne', List.getLast?_eq_some_getLast hne']
  exact congrArg some (slashed_eq_slashes hs _ (List.getLast_mem hne'))

/-- A pattern without a slash at its end, seen from a directory and behind the path of it. -/
theorem scan_absolute_eq (d : Disk) (D : Path) (hB : B.head? = some (.char '/'))
    (hplain : IsPlain B) (hp : (slashed p).head? ≠ some (.char '/'))
    (hparts : (Path.ofText (slashed p)).parts ≠ [])
    (hlast : (slashed p).getLast? ≠ some (.char '/')) :
    d.scan D [B ++ .char '/' :: p] = d.scan (Path.ofText B) [p] := by
  have hne : p ≠ [] := by
    rintro rfl
    exact hparts rfl
  rw [scan_singleton d D (by simp), scan_singleton d _ hne, Plan.ofText_absolute hB hplain,
    Plan.ofText_relative hp hparts]
  cases hcs : (Path.ofText (slashed p)).parts.mapM Component.ofText with
  | error fault => rfl
  | ok cs =>
    have hcomponents : cs ≠ [] := by
      have hempty := isEmpty_of_mapM hcs
      intro hnil
      simp [hnil, hparts] at hempty
    have honly : ((slashed p).getLast? == some (.char '/')) = false := by simpa using hlast
    simp only [Except.map, Plan.found_absolute d D hB hcomponents, honly]

/-- Behind a path slashes at the end are lost. -/
theorem scan_absolute_slashes (d : Disk) (D : Path) (hB : B.head? = some (.char '/'))
    (hplain : IsPlain B) {s : RawText} (hs : ∀ c ∈ s, c = .char '/' ∨ c = .char '\\') :
    d.scan D [B ++ .char '/' :: (p ++ s)] = d.scan D [B ++ .char '/' :: p] := by
  rw [scan_singleton d D (by simp), scan_singleton d D (by simp), Plan.ofText_absolute hB hplain,
    Plan.ofText_absolute hB hplain, slashed_append,
    Path.parts_ofText_append_slashes _ (slashed_eq_slashes hs)]

/-- Seen from a directory, a pattern with slashes at its end selects no file. -/
theorem scan_relative_slashes (hd : d.ListsOnce) (base : Path)
    (hp : (slashed p).head? ≠ some (.char '/')) (hparts : (Path.ofText (slashed p)).parts ≠ [])
    {s : RawText} (hs : ∀ c ∈ s, c = .char '/' ∨ c = .char '\\') (hne : s ≠ []) :
    d.scan base [p ++ s] = (d.scan base [p]).map fun _ => [] := by
  have hpne : p ≠ [] := by
    rintro rfl
    exact hparts rfl
  have hparts' := Path.parts_ofText_append_slashes (slashed p) (slashed_eq_slashes hs)
  have hp' : (slashed (p ++ s)).head? ≠ some (.char '/') := by
    rwa [slashed_append, List.head?_append_of_ne_nil _ (by simpa [slashed] using hpne)]
  rw [scan_singleton d base (by simp [hpne]), scan_singleton d base hpne,
    Plan.ofText_relative hp hparts, Plan.ofText_relative hp' (by rwa [slashed_append, hparts']),
    getLast?_slashed hs hne, slashed_append, hparts']
  cases (Path.ofText (slashed p)).parts.mapM Component.ofText with
  | error fault => rfl
  | ok cs =>
    refine congrArg Except.ok (inOrder_filter_eq_nil fun l hl => ?_)
    obtain ⟨k, hk, hl⟩ := (mem_select hd).1 hl
    exact hl.eq_directory (Plan.get?_of_mem_origins hk)

/-- A pattern without components is refused seen from a directory, and selects no file behind the
path of it. -/
theorem scan_componentless (d : Disk) (D : Path) (hB : B.head? = some (.char '/'))
    (hplain : IsPlain B) (hp : (slashed p).head? ≠ some (.char '/')) (hne : p ≠ [])
    (hparts : (Path.ofText (slashed p)).parts = []) :
    d.scan (Path.ofText B) [p] =
        .error (if (slashed p).getLast? == some (.char '/') then .onlySlash else .noComponent) ∧
      (d.isDirectory (Path.ofText B) → d.scan D [B ++ .char '/' :: p] = .ok []) := by
  have hrelative : (Path.ofText (slashed p)).isAbsolute = false := by
    rw [Path.isAbsolute_ofText]
    simpa using hp
  constructor
  · rw [scan_singleton d _ hne, Plan.ofText_eq_ite, hrelative, hparts]
    rfl
  · intro hdirectory
    have hplan : Plan.ofText (B ++ .char '/' :: p) =
        .ok ⟨true, (Path.ofText B).parts.map .name, false⟩ := by
      rw [Plan.ofText_absolute hB hplain, hparts]
      simp [Except.map, pure, Except.pure]
    obtain ⟨k, hk, hdirectory⟩ := find?_eq_some_iff.1 (beq_iff_eq.1 hdirectory)
    rw [scan_singleton d D (by simp), hplan]
    refine congrArg Except.ok (inOrder_filter_eq_nil fun l hl => ?_)
    obtain rfl := Except.ok.inj (hk.symm.trans (Plan.locate_of_mem_found_names hB hl))
    exact hdirectory

/-- A pattern behind the path of a directory selects what it selects seen from there, or is refused
for the same reason, if it has a component and no slash at its end. With slashes at its end it
selects behind the path what it selects without them, and seen from the directory no file. Without
components it is refused seen from the directory, and selects no file behind the path. -/
theorem scan_absolute (d : Disk) (D : Path) (hB : B.head? = some (.char '/'))
    (hplain : IsPlain B) (hp : (slashed p).head? ≠ some (.char '/')) (hne : p ≠ []) :
    ((Path.ofText (slashed p)).parts ≠ [] →
        ((slashed p).getLast? ≠ some (.char '/') →
          d.scan D [B ++ .char '/' :: p] = d.scan (Path.ofText B) [p]) ∧
        ∀ s, s ≠ [] → (∀ c ∈ s, c = .char '/' ∨ c = .char '\\') →
          d.scan D [B ++ .char '/' :: (p ++ s)] = d.scan D [B ++ .char '/' :: p] ∧
          (d.ListsOnce →
            d.scan (Path.ofText B) [p ++ s] = (d.scan (Path.ofText B) [p]).map fun _ => [])) ∧
      ((Path.ofText (slashed p)).parts = [] →
        d.scan (Path.ofText B) [p] =
          .error (if (slashed p).getLast? == some (.char '/') then .onlySlash else .noComponent) ∧
        (d.isDirectory (Path.ofText B) → d.scan D [B ++ .char '/' :: p] = .ok [])) := by
  refine ⟨fun hparts => ⟨?_, fun s hsne hs => ⟨?_, fun hd => ?_⟩⟩, ?_⟩
  · exact scan_absolute_eq d D hB hplain hp hparts
  · exact scan_absolute_slashes d D hB hplain hs
  · exact scan_relative_slashes hd (Path.ofText B) hp hparts hs hsne
  · exact scan_componentless d D hB hplain hp hne

/-- Whether the slash at the end of a pattern is heeded depends on where it is seen from. -/
theorem scan_absolute_source :
    sourceDisk.ListsOnce ∧ IsPlain "/src" ∧
      sourceDisk.scan (Path.ofText "/src") ["*.cs"] = .ok [["src", "a.cs"]] ∧
      sourceDisk.scan (Path.ofText ".") ["/src/*.cs"] = .ok [["src", "a.cs"]] ∧
      sourceDisk.scan (Path.ofText "/src") ["*.cs/"] = .ok [] ∧
      sourceDisk.scan (Path.ofText ".") ["/src/*.cs/"] = .ok [["src", "a.cs"]] ∧
      sourceDisk.scan (Path.ofText "/src") ["."] = .error .noComponent ∧
      sourceDisk.scan (Path.ofText ".") ["/src/."] = .ok [] := by
  have honce : sourceDisk.ListsOnce := by decide +kernel
  have hplain : IsPlain "/src" := by decide +kernel
  have hfound : sourceDisk.scan (Path.ofText "/src") ["*.cs"] = .ok [["src", "a.cs"]] := by
    decide +kernel
  obtain ⟨hagree, hslashes⟩ := (scan_absolute (B := "/src") (p := "*.cs") sourceDisk
    (Path.ofText ".") rfl hplain (by decide) (by decide)).1 (by decide)
  obtain ⟨hbehind, hseen⟩ := hslashes "/" (by decide) (by simp)
  obtain ⟨hrefused, hnone⟩ := (scan_absolute (B := "/src") (p := ".") sourceDisk
    (Path.ofText ".") rfl hplain (by decide) (by decide)).2 (by decide)
  have habsolute := (hagree (by decide)).trans hfound
  refine ⟨honce, hplain, hfound, habsolute, ?_, hbehind.trans habsolute, hrefused, ?_⟩
  · exact (hseen honce).trans (by rw [hfound]; rfl)
  · exact hnone (by decide +kernel)

end Patterns

end Glob

end DtoInterfaces
