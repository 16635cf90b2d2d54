import DtoInterfaces.Proofs.Disk.Selection
import DtoInterfaces.Proofs.Disk.Writing

namespace DtoInterfaces

open Disk

variable {d d' : Disk} {l : Location}

namespace Disk

/-- Whether the directories of two disks are the same, and the working directory. -/
structure SameDirectories (d d' : Disk) : Prop where
  here_eq : d'.here = d.here
  get?_iff : ∀ l, d'.get? l = some .directory ↔ d.get? l = some .directory

namespace SameDirectories

theorem walk_iff (h : SameDirectories d d') {parts : List RawText} {k m : Location} :
    d'.walk k parts = .ok m ↔ d.walk k parts = .ok m := by
  induction parts generalizing k with
  | nil => rfl
  | cons part parts ih => rw [walk_cons_eq_ok_iff, walk_cons_eq_ok_iff, h.get?_iff, ih]

theorem locate_iff (h : SameDirectories d d') {p : Path} {m : Location} :
    d'.locate p = .ok m ↔ d.locate p = .ok m := by
  rw [locate, locate, h.here_eq, h.walk_iff]

theorem exists_locate_eq_error (h : SameDirectories d d') {p : Path} {fault : DiskFault}
    (hp : d.locate p = .error fault) : ∃ fault', d'.locate p = .error fault' := by
  cases hp' : d'.locate p with
  | ok m =>
    rw [h.locate_iff.1 hp'] at hp
    cases hp
  | error fault' => exact ⟨fault', rfl⟩

theorem find?_iff (h : SameDirectories d d') {p : Path} :
    d'.find? p = some .directory ↔ d.find? p = some .directory := by
  rw [find?_eq_some_iff, find?_eq_some_iff]
  simp only [h.locate_iff, h.get?_iff]

end SameDirectories

section Put

variable (hl : d.get? l ≠ some .directory) (octets : List UInt8)
include hl

theorem ne_nil_of_get?_ne : l ≠ [] := by
  rintro rfl
  exact hl rfl

theorem sameDirectories_put : SameDirectories d (d.put l (.file octets)) := by
  refine ⟨rfl, fun k => ?_⟩
  rw [get?_put d (ne_nil_of_get?_ne hl)]
  split
  · next hk =>
    rw [hk]
    exact ⟨fun h => (nomatch h), fun h => absurd h hl⟩
  · rfl

theorem find?_put {p : Path} (hp : d.locate p ≠ .ok l) :
    (d.put l (.file octets)).find? p = d.find? p := by
  have hsame := sameDirectories_put hl octets
  cases hk : d.locate p with
  | ok k =>
    have hkl : k ≠ l := by
      rintro rfl
      exact hp hk
    rw [find?, find?, hk, hsame.locate_iff.2 hk]
    simp only [get?_put d (ne_nil_of_get?_ne hl), if_neg hkl]
  | error fault =>
    obtain ⟨fault', hk'⟩ := hsame.exists_locate_eq_error hk
    rw [find?, find?, hk, hk']

theorem readText_put {p : Path} (hp : d.locate p ≠ .ok l) :
    (d.put l (.file octets)).readText p = d.readText p := by
  rw [readText, readText, octets?, octets?, find?_put hl octets hp]

end Put

theorem put_put (d : Disk) (l : Location) (x : Entry) : (d.put l x).put l x = d.put l x := by
  simp [put, List.filter_filter]

theorem ensureDirectory_of_locate {p : Path} {k : Location} (hfault : p.fault? = none)
    (hk : d.locate p = .ok k) (hget : d.get? k = some .directory) :
    d.ensureDirectory p = (.ok k, d) := by
  rw [ensureDirectory, hfault]
  dsimp only
  split
  · next m hm =>
    obtain rfl := Except.ok.inj (hk.symm.trans hm)
    rw [ensureDirectoryAt, hget]
  · next hm => cases hk.symm.trans hm
  · next hm => cases hk.symm.trans hm

/-- The disk is not asked for a path that is the name of no file. -/
theorem writeText_of_fault {p : Path} {fault : DiskFault} (hfault : p.parent.fault? = some fault)
    (t : RawText) : d.writeText p t = (.error (.disk ⟨fault, p.parent⟩), d) := by
  rw [writeText, ensureDirectory, hfault]

theorem writeText_of_parent {p : Path} (hfault : p.parent.fault? = none)
    (h : d.find? p.parent = some .directory) (t : RawText) :
    d.writeText p t =
      match d.writeOctets p ((Utf8.encodeRaw t).toOption.getD []) with
      | (.error e, d) => (.error (.disk e), d)
      | (.ok (), d) => (((Utf8.encodeRaw t).map fun _ => ()).mapError .unencodable, d) := by
  obtain ⟨k, hk, hget⟩ := find?_eq_some_iff.1 h
  unfold writeText
  exact ensureDirectory_of_locate hfault hk hget ▸ rfl

theorem writeOctets_put {p : Path} {octets : List UInt8} (hl : d.get? l ≠ some .directory)
    (hw : d.writeOctets p octets = (.ok (), d.put l (.file octets))) (hp : d.locate p = .ok l) :
    (d.put l (.file octets)).writeOctets p octets = (.ok (), d.put l (.file octets)) := by
  have hlocate := (sameDirectories_put hl octets).locate_iff.2 hp
  rw [writeOctets] at hw ⊢
  split at hw
  · cases hw
  · rw [hlocate]
    simp [get?_put d (ne_nil_of_get?_ne hl), put_put]

/-- Writing fails and changes nothing, or it puts one file, and would end alike and put the same
again. -/
theorem writeText_cases_of_parent {p : Path} (h : d.find? p.parent = some .directory)
    (t : RawText) :
    (∃ error, d.writeText p t = (.error error, d)) ∨
      ∃ l octets result, d.locate p = .ok l ∧ d.get? l ≠ some .directory ∧
        d.writeText p t = (result, d.put l (.file octets)) ∧
        (d.put l (.file octets)).writeText p t = (result, d.put l (.file octets)) := by
  cases hfault : p.parent.fault? with
  | some fault => exact .inl ⟨_, writeText_of_fault hfault t⟩
  | none =>
    rw [writeText_of_parent hfault h]
    rcases writeOctets_cases d p ((Utf8.encodeRaw t).toOption.getD []) with
      ⟨error, hw⟩ | ⟨l, hp, hl, hw⟩
    · rw [hw]
      exact .inl ⟨_, rfl⟩
    · have hparent := (sameDirectories_put hl ((Utf8.encodeRaw t).toOption.getD [])).find?_iff.2 h
      refine .inr ⟨l, (Utf8.encodeRaw t).toOption.getD [], _, hp, hl, by rw [hw], ?_⟩
      rw [writeText_of_parent hfault hparent, writeOctets_put hl hw hp]

end Disk

namespace Glob

theorem Component.selects_iff (h : SameDirectories d d') {filesToo : Bool} {k : Location}
    (hl : filesToo → ((d'.get? l).isSome ↔ (d.get? l).isSome)) (c : Component) :
    c.Selects d' filesToo k l ↔ c.Selects d filesToo k l := by
  have hadmits : d'.Admits filesToo l ↔ d.Admits filesToo l := by
    cases filesToo with
    | false => simpa [Admits] using h.get?_iff l
    | true => simpa [Admits, Option.isSome_iff_exists] using hl rfl
  cases c with
  | below => rw [Selects, Selects, h.get?_iff]
  | wild pieces => simp only [Selects, hadmits]
  | name n => rw [Selects, Selects, hadmits]

/-- On the way only directories count, and at its end whether anything stands there. -/
theorem reaches_iff (h : SameDirectories d d') (hl : (d'.get? l).isSome ↔ (d.get? l).isSome)
    {onlyDirectories : Bool} {components : List Component} {k : Location} :
    Reaches d' onlyDirectories components k l ↔ Reaches d onlyDirectories components k l := by
  induction components generalizing k with
  | nil => rfl
  | cons c rest ih =>
    simp only [Reaches, ih]
    refine exists_congr fun j => and_congr_left fun hj => c.selects_iff h fun hfiles => ?_
    -- files count for the last component alone, and that leads to the end of the way
    have hrest : rest = [] := by
      rw [Bool.and_eq_true] at hfiles
      exact List.isEmpty_iff.1 hfiles.1
    subst hrest
    obtain rfl : l = j := hj
    exact hl

namespace Plan

theorem origins_eq (h : SameDirectories d d') (base : Path) (p : Plan) :
    p.origins d' base = p.origins d base := by
  unfold origins
  congr 1
  cases hk : d.locate base with
  | ok k => simp only [h.locate_iff.2 hk, h.get?_iff]
  | error fault =>
    obtain ⟨fault', hk'⟩ := h.exists_locate_eq_error hk
    simp only [hk']

theorem mem_found_iff (hd : d.ListsOnce) (hd' : d'.ListsOnce) (h : SameDirectories d d')
    (hl : (d'.get? l).isSome ↔ (d.get? l).isSome) {base : Path} {p : Plan} :
    l ∈ p.found d' base ↔ l ∈ p.found d base := by
  rw [found, found, mem_select hd, mem_select hd', origins_eq h]
  simp only [reaches_iff h hl]

end Plan

end Glob

namespace Disk

open Glob

/-- A file that no pattern matches does not change what a scan selects. -/
theorem scan_put (hd : d.ListsOnce) (hl : d.get? l ≠ some .directory) (octets : List UInt8)
    {base : Path} {patterns : List RawText}
    (hout : ¬ (d.put l (.file octets)).Matches base patterns l) :
    (d.put l (.file octets)).scan base patterns = d.scan base patterns := by
  have hne := ne_nil_of_get?_ne hl
  have hd' := hd.put hne (.file octets)
  have hsame := sameDirectories_put hl octets
  rw [scan_eq, scan_eq]
  cases hps : plans patterns with
  | error fault => rfl
  | ok ps =>
    refine congrArg Except.ok (inOrder_congr fun k => ?_)
    have hget := get?_put d hne (.file octets) k
    have hfound (hk : ((d.put l (.file octets)).get? k).isSome ↔ (d.get? k).isSome) :
        k ∈ ps.flatMap (Plan.found (d.put l (.file octets)) base) ↔
          k ∈ ps.flatMap (Plan.found d base) := by
      simp only [List.mem_flatMap, Plan.mem_found_iff hd hd' hsame hk]
    rw [List.mem_filter, List.mem_filter]
    by_cases hkl : k = l
    · subst hkl
      refine iff_of_false (fun h => hout (matches_of_mem_found hps h.1)) fun h => ?_
      -- had it been found before, it would be found where it was replaced
      obtain ⟨old, hold⟩ := exists_octets_of_isFileAt h.2
      exact hout (matches_of_mem_found hps ((hfound (by simp [hget, hold])).2 h.1))
    · rw [if_neg hkl] at hget
      rw [hfound (by rw [hget]), isFileAt, isFileAt, hget]

end Disk

end DtoInterfaces
