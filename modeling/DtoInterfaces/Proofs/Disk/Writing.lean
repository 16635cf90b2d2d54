import DtoInterfaces.Proofs.Disk.Tree
import DtoInterfaces.Proofs.Text.LineBreak
import DtoInterfaces.Proofs.Text.Utf8

namespace DtoInterfaces.Disk

variable {d d' e : Disk}

/-- The content of a file, by its location. -/
def fileAt? (d : Disk) (l : Location) : Option (List UInt8) :=
  match d.get? l with
  | some (.file octets) => some octets
  | _ => none

/-- Whether the files of two disks are the same. Their directories need not be. -/
def SameFiles (d d' : Disk) : Prop := ∀ l, d'.fileAt? l = d.fileAt? l

theorem SameFiles.refl (d : Disk) : SameFiles d d := fun _ => rfl

/-- Nothing but directories is added, and nothing is taken away. -/
structure OnlyAddsDirectories (d d' : Disk) : Prop where
  here_eq : d'.here = d.here
  get?_eq_or : ∀ l, d'.get? l = d.get? l ∨ d.get? l = none ∧ d'.get? l = some .directory

namespace OnlyAddsDirectories

theorem refl (d : Disk) : OnlyAddsDirectories d d := ⟨rfl, fun _ => .inl rfl⟩

theorem trans (h : OnlyAddsDirectories d e) (h' : OnlyAddsDirectories e d') :
    OnlyAddsDirectories d d' := by
  refine ⟨h'.here_eq.trans h.here_eq, fun l => ?_⟩
  rcases h'.get?_eq_or l with hl' | ⟨hn', hl'⟩
  · rw [hl']
    exact h.get?_eq_or l
  · rcases h.get?_eq_or l with hl | ⟨-, hl⟩
    · exact .inr ⟨hl ▸ hn', hl'⟩
    · rw [hl] at hn'
      cases hn'

theorem put_directory {l : Location} (hl : d.get? l = none) :
    OnlyAddsDirectories d (d.put l .directory) := by
  have hne : l ≠ [] := by
    rintro rfl
    cases hl
  refine ⟨rfl, fun k => ?_⟩
  rw [get?_put d hne]
  split
  · next hk => exact .inr ⟨hk ▸ hl, rfl⟩
  · exact .inl rfl

theorem get?_of_some (h : OnlyAddsDirectories d d') {l : Location} {x : Entry}
    (hl : d.get? l = some x) : d'.get? l = some x := by
  rcases h.get?_eq_or l with hl' | ⟨hn, -⟩
  · rw [hl', hl]
  · rw [hl] at hn
    cases hn

theorem sameFiles (h : OnlyAddsDirectories d d') : SameFiles d d' := by
  intro l
  unfold fileAt?
  rcases h.get?_eq_or l with hl | ⟨hn, hl⟩
  · rw [hl]
  · rw [hn, hl]

/-- Components that did not fail for want of a directory lead where they led. -/
theorem walk_eq (h : OnlyAddsDirectories d d') {parts : List RawText} {k : Location}
    (hw : d.walk k parts ≠ .error .missing) : d'.walk k parts = d.walk k parts := by
  induction parts generalizing k with
  | nil => rfl
  | cons part parts ih =>
    rw [walk] at hw ⊢
    rw [walk]
    cases hk : d.get? k with
    | none => simp [hk] at hw
    | some x =>
      rw [h.get?_of_some hk]
      cases x with
      | file octets => rfl
      | directory =>
        -- the directory is still there, so the same step is taken from it
        rw [hk] at hw
        exact ih hw

theorem locate_eq (h : OnlyAddsDirectories d d') {p : Path}
    (hp : d.locate p ≠ .error .missing) : d'.locate p = d.locate p := by
  unfold locate at hp ⊢
  rw [h.here_eq]
  exact h.walk_eq hp

end OnlyAddsDirectories

theorem ensureDirectoryAt_snd (d : Disk) (p : Path) (l : Location) :
    OnlyAddsDirectories d (d.ensureDirectoryAt p l).2 := by
  unfold ensureDirectoryAt
  split
  · next h => exact .put_directory h
  · exact .refl d
  · exact .refl d

theorem ensureDirectory_snd (d : Disk) (p : Path) :
    OnlyAddsDirectories d (d.ensureDirectory p).2 := by
  -- up along the path: what is made above stays when the directory itself is made
  fun_induction ensureDirectory d p with
  | case1 => exact .refl d
  | case2 p _ l => exact ensureDirectoryAt_snd d p l
  | case3 p _ _ error above h ih =>
    rw [h] at ih
    exact ih
  | case4 p _ _ l above h ih =>
    rw [h] at ih
    exact ih.trans (ensureDirectoryAt_snd above p _)
  | case5 => exact .refl d

theorem fileAt?_put {l : Location} (hl : l ≠ []) (octets : List UInt8) (k : Location) :
    (d.put l (.file octets)).fileAt? k = if k = l then some octets else d.fileAt? k := by
  unfold fileAt?
  rw [get?_put d hl]
  by_cases hk : k = l
  · rw [if_pos hk, if_pos hk]
  · rw [if_neg hk, if_neg hk]

/-- Ways do not pass through what is no directory, so they stay when something is put there. -/
theorem walk_put {l : Location} (hl : d.get? l ≠ some .directory) (x : Entry) {parts : List RawText}
    {k m : Location} (hw : d.walk k parts = .ok m) : (d.put l x).walk k parts = .ok m := by
  have hne : l ≠ [] := by
    rintro rfl
    exact hl rfl
  induction parts generalizing k with
  | nil => exact hw
  | cons part parts ih =>
    obtain ⟨hk, hw⟩ := walk_cons_eq_ok_iff.1 hw
    -- the way leads on from a directory, so not from what was put
    have hkl : k ≠ l := by
      rintro rfl
      exact hl hk
    refine walk_cons_eq_ok_iff.2 ⟨?_, ih hw⟩
    rw [get?_put d hne, if_neg hkl, hk]

theorem writeOctets_cases (d : Disk) (p : Path) (octets : List UInt8) :
    (∃ error, d.writeOctets p octets = (.error error, d)) ∨
      ∃ l, d.locate p = .ok l ∧ d.get? l ≠ some .directory ∧
        d.writeOctets p octets = (.ok (), d.put l (.file octets)) := by
  unfold writeOctets
  split
  · exact .inl ⟨_, rfl⟩
  · split
    · exact .inl ⟨_, rfl⟩
    · next l hl =>
      split
      · exact .inl ⟨_, rfl⟩
      · next hd => exact .inr ⟨l, hl, hd, rfl⟩

/-- Directories are made first, and then a file is put where the path leads by then. It holds the
text, or nothing if the text cannot be encoded. -/
theorem writeText_cases (d : Disk) (p : Path) (t : RawText) :
    (∃ error d', d.writeText p t = (.error (.disk error), d') ∧ OnlyAddsDirectories d d') ∨
      ∃ e l, OnlyAddsDirectories d e ∧ e.locate p = .ok l ∧ e.get? l ≠ some .directory ∧
        d.writeText p t = (((Utf8.encodeRaw t).map fun _ => ()).mapError .unencodable,
          e.put l (.file ((Utf8.encodeRaw t).toOption.getD []))) := by
  have hmade := ensureDirectory_snd d p.parent
  unfold writeText
  dsimp only
  split
  · next error d' h =>
    rw [h] at hmade
    exact .inl ⟨error, d', rfl, hmade⟩
  · next e h =>
    rw [h] at hmade
    rcases writeOctets_cases e p ((Utf8.encodeRaw t).toOption.getD []) with
      ⟨error, hw⟩ | ⟨l, hl, hd, hw⟩
    · rw [hw]
      exact .inl ⟨error, e, rfl, hmade⟩
    · rw [hw]
      exact .inr ⟨e, l, hmade, hl, hd, rfl⟩

/-- One file is written: the one that the path leads to in the end, and led to before unless a
directory was missing. -/
structure Writes (d : Disk) (p : Path) (octets : List UInt8) (l : Location) (d' : Disk) : Prop where
  here_eq : d'.here = d.here
  locate_eq : d'.locate p = .ok l
  locate_before : d.locate p = .ok l ∨ d.locate p = .error .missing
  fileAt?_self : d'.fileAt? l = some octets
  fileAt?_other : ∀ k ≠ l, d'.fileAt? k = d.fileAt? k

theorem OnlyAddsDirectories.writes {p : Path} {l : Location} (h : OnlyAddsDirectories d e)
    (hl : e.locate p = .ok l) (hd : e.get? l ≠ some .directory) (octets : List UInt8) :
    Writes d p octets l (e.put l (.file octets)) := by
  have hne : l ≠ [] := by
    rintro rfl
    exact hd rfl
  refine ⟨h.here_eq, walk_put hd _ hl, ?_, ?_, fun k hk => ?_⟩
  · by_cases hm : d.locate p = .error .missing
    · exact .inr hm
    · exact .inl ((h.locate_eq hm).symm.trans hl)
  · rw [fileAt?_put hne, if_pos rfl]
  · rw [fileAt?_put hne, if_neg hk, h.sameFiles]

/-- What writing a text comes to: it fails and leaves all files as they are, it writes the text to
one file, or it fails with that file emptied, because the text cannot be encoded. -/
inductive Attempts (d : Disk) (p : Path) (t : RawText) : Except WriteFault Unit × Disk → Prop
  | refused (error : DiskError) {d' : Disk} (hsame : SameFiles d d') :
    Attempts d p t (.error (.disk error), d')
  | written {octets : List UInt8} {l : Location} {d' : Disk} (ht : Utf8.encodeRaw t = .ok octets)
      (hw : Writes d p octets l d') : Attempts d p t (.ok (), d')
  | emptied {fault : Utf8.EncodeFault} {l : Location} {d' : Disk}
      (ht : Utf8.encodeRaw t = .error fault) (hw : Writes d p [] l d') :
    Attempts d p t (.error (.unencodable fault), d')

theorem attempts_writeText (d : Disk) (p : Path) (t : RawText) :
    Attempts d p t (d.writeText p t) := by
  rcases writeText_cases d p t with ⟨error, d', h, hmade⟩ | ⟨e, l, hmade, hl, hd, h⟩
  · rw [h]
    exact .refused error hmade.sameFiles
  · rw [h]
    cases ht : Utf8.encodeRaw t with
    | ok octets => exact .written ht (hmade.writes hl hd octets)
    | error fault => exact .emptied ht (hmade.writes hl hd [])

/-- A text without surrogates is written in full or not at all. -/
theorem writeText_raw (d : Disk) (p : Path) (t : Text) :
    (∃ error d', d.writeText p t.raw = (.error (.disk error), d') ∧ SameFiles d d') ∨
      ∃ l d', d.writeText p t.raw = (.ok (), d') ∧ Writes d p (Utf8.encode t) l d' := by
  have h := attempts_writeText d p t.raw
  generalize d.writeText p t.raw = outcome at h
  cases h with
  | refused error hsame => exact .inl ⟨error, _, rfl, hsame⟩
  | written ht hw =>
    obtain rfl := Except.ok.inj ((Utf8.encodeRaw_raw t).symm.trans ht)
    exact .inr ⟨_, _, rfl, hw⟩
  | emptied ht => cases (Utf8.encodeRaw_raw t).symm.trans ht

theorem eq_append_of_walk {parts : List RawText} (hparts : (".." : RawText) ∉ parts)
    {k l : Location} (hw : d.walk k parts = .ok l) : l = k ++ parts := by
  induction parts generalizing k with
  | nil =>
    cases hw
    simp
  | cons part parts ih =>
    rw [List.mem_cons, not_or] at hparts
    rw [ih hparts.2 (walk_cons_eq_ok_iff.1 hw).2, Location.step, if_neg (Ne.symm hparts.1),
      List.append_assoc, List.singleton_append]

/-- Where nothing stood before, something is replaced only by way of a directory that was missing,
out of which the path climbs again. -/
theorem Writes.eq_missing_of_get? (htree : d.IsTree) {p : Path} {octets : List UInt8} {l : Location}
    (hw : Writes d p octets l d') (hp : d.find? p = none) {x : Entry} (hl : d.get? l = some x) :
    d.locate p = .error .missing ∧ (".." : RawText) ∈ p.parts := by
  have hm : d.locate p = .error .missing := by
    refine hw.locate_before.resolve_left fun hb => ?_
    rw [find?, hb] at hp
    cases hl.symm.trans hp
  refine ⟨hm, by_contra fun hparts => ?_⟩
  -- without a step up the path leads straight down to what stood there before
  have he := hw.locate_eq
  rw [locate, hw.here_eq] at he
  obtain rfl := eq_append_of_walk hparts he
  have hd : d.locate p = .ok _ := htree.walk_eq _ _ hl
  cases hm.symm.trans hd

theorem fileAt?_eq_some_iff {l : Location} {octets : List UInt8} :
    d.fileAt? l = some octets ↔ d.get? l = some (.file octets) := by
  rw [fileAt?]
  cases d.get? l with
  | none => simp
  | some e => cases e <;> simp

theorem Writes.find?_eq {p : Path} {l : Location} {octets : List UInt8}
    (h : Writes d p octets l d') : d'.find? p = some (.file octets) := by
  rw [find?, h.locate_eq]
  exact fileAt?_eq_some_iff.1 h.fileAt?_self

theorem Writes.readText_eq {p : Path} {l : Location} {t : Text}
    (h : Writes d p (Utf8.encode t) l d') : d'.readText p = .ok t.unifyLineBreaks := by
  rw [readText, octets?, h.find?_eq]
  dsimp only
  rw [Utf8.decode_encode]

end DtoInterfaces.Disk
