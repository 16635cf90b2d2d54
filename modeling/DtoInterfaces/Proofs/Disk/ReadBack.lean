import DtoInterfaces.Proofs.Disk.Replacement
import DtoInterfaces.Session.Basic

namespace DtoInterfaces.Disk

variable {d e d' : Disk} {p q : Path} {l : Location}

section Results

variable {ε α β : Type} {f : α → Except ε β} {fault : ε}

theorem mapM_cons_eq_error_iff {a : α} {as : List α} :
    (a :: as).mapM f = .error fault ↔
      f a = .error fault ∨ (∃ b, f a = .ok b) ∧ as.mapM f = .error fault := by
  rw [List.mapM_cons]
  cases f a with
  | error e => simp [bind, Except.bind]
  | ok b => cases as.mapM f <;> simp [bind, Except.bind, pure, Except.pure]

theorem mapM_eq_error_iff {as : List α} :
    as.mapM f = .error fault ↔ ∃ before a behind, as = before ++ a :: behind ∧
      (∀ x ∈ before, ∃ b, f x = .ok b) ∧ f a = .error fault := by
  induction as with
  | nil =>
    constructor
    · intro h
      cases h
    · rintro ⟨before, a, behind, h, -, -⟩
      simp at h
  | cons a as ih =>
    rw [mapM_cons_eq_error_iff, ih]
    constructor
    · rintro (ha | ⟨ha, before, x, behind, has, hbefore, hx⟩)
      · exact ⟨[], a, as, rfl, List.forall_mem_nil _, ha⟩
      · exact ⟨a :: before, x, behind, by rw [has, List.cons_append],
          List.forall_mem_cons.2 ⟨ha, hbefore⟩, hx⟩
    · rintro ⟨before, x, behind, has, hbefore, hx⟩
      cases before with
      | nil => exact .inl ((List.cons.inj has).1 ▸ hx)
      | cons y before =>
        obtain ⟨hay, htail⟩ := List.cons.inj has
        obtain ⟨hy, hbefore⟩ := List.forall_mem_cons.1 hbefore
        exact .inr ⟨hay ▸ hy, before, x, behind, htail, hbefore, hx⟩

end Results

/-- A file that was read, with its path. -/
def readFile (d : Disk) (p : Path) : Except ReadFault SourceFile :=
  (d.readText p).map (SourceFile.mk p)

theorem readFile_eq_ok_iff {f : SourceFile} :
    d.readFile p = .ok f ↔ f.path = p ∧ d.readText p = .ok f.content := by
  obtain ⟨path, content⟩ := f
  rw [readFile]
  cases d.readText p with
  | error fault => simp [Except.map]
  | ok t => simp [Except.map, eq_comm]

theorem exists_readFile_iff : (∃ f, d.readFile p = .ok f) ↔ ∃ t, d.readText p = .ok t := by
  rw [readFile]
  cases d.readText p <;> simp [Except.map]

theorem readFile_eq_error_iff {fault : ReadFault} :
    d.readFile p = .error fault ↔ d.readText p = .error fault := by
  rw [readFile]
  cases d.readText p <;> simp [Except.map]

theorem readAll_eq (d : Disk) (ps : List Path) : d.readAll ps = ps.mapM d.readFile := rfl

/-- Several files are read when each of them is, and they come in the order of their paths. -/
theorem readAll_eq_ok_iff {ps : List Path} {files : List SourceFile} :
    d.readAll ps = .ok files ↔
      files.map SourceFile.path = ps ∧ ∀ f ∈ files, d.readText f.path = .ok f.content := by
  rw [readAll_eq]
  induction ps generalizing files with
  | nil =>
    constructor
    · intro h
      cases h
      exact ⟨rfl, List.forall_mem_nil _⟩
    · rintro ⟨h, -⟩
      rw [List.map_eq_nil_iff.1 h]
      rfl
  | cons p ps ih =>
    rw [mapM_cons_eq_ok_iff]
    constructor
    · rintro ⟨f, fs, hf, hfs, rfl⟩
      obtain ⟨hpath, hread⟩ := readFile_eq_ok_iff.1 hf
      obtain ⟨hpaths, hreads⟩ := ih.1 hfs
      exact ⟨by rw [List.map_cons, hpath, hpaths],
        List.forall_mem_cons.2 ⟨hpath ▸ hread, hreads⟩⟩
    · rintro ⟨h, hreads⟩
      obtain ⟨f, fs, rfl, hpath, hpaths⟩ := List.map_eq_cons_iff.1 h
      obtain ⟨hread, hreads⟩ := List.forall_mem_cons.1 hreads
      exact ⟨f, fs, readFile_eq_ok_iff.2 ⟨hpath, hpath ▸ hread⟩, ih.2 ⟨hpaths, hreads⟩, rfl⟩

/-- Reading several files fails as the first of them does that cannot be read. -/
theorem readAll_eq_error_iff {ps : List Path} {fault : ReadFault} :
    d.readAll ps = .error fault ↔ ∃ before p behind, ps = before ++ p :: behind ∧
      (∀ q ∈ before, ∃ t, d.readText q = .ok t) ∧ d.readText p = .error fault := by
  rw [readAll_eq, mapM_eq_error_iff]
  simp only [exists_readFile_iff, readFile_eq_error_iff]

theorem octets?_eq_some_iff {octets : List UInt8} :
    d.octets? q = some octets ↔ ∃ k, d.locate q = .ok k ∧ d.fileAt? k = some octets := by
  rw [octets?, find?]
  cases d.locate q with
  | error fault => simp
  | ok k =>
    simp only [Except.ok.injEq, exists_eq_left']
    rfl

theorem readText_congr (h : d'.octets? q = d.octets? q) : d'.readText q = d.readText q := by
  rw [readText, readText, h]

theorem OnlyAddsDirectories.octets?_eq (h : OnlyAddsDirectories d e) (htree : d.IsTree)
    (hq : d.locate q = .error .missing → (".." : RawText) ∉ q.parts) :
    e.octets? q = d.octets? q := by
  refine Option.ext fun octets => ?_
  rw [octets?_eq_some_iff, octets?_eq_some_iff]
  constructor
  · rintro ⟨k, hk, hfile⟩
    rw [h.sameFiles] at hfile
    refine ⟨k, ?_, hfile⟩
    by_cases hm : d.locate q = .error .missing
    · -- the path goes straight down, so it led to the file before
      rw [locate, h.here_eq] at hk
      have hdown := eq_append_of_walk (hq hm) hk
      rw [hdown] at hfile ⊢
      exact htree.walk_eq _ _ (fileAt?_eq_some_iff.1 hfile)
    · exact (h.locate_eq hm).symm.trans hk
  · rintro ⟨k, hk, hfile⟩
    have hm : d.locate q ≠ .error .missing := by
      intro hm
      cases hk.symm.trans hm
    exact ⟨k, (h.locate_eq hm).trans hk, (h.sameFiles k).trans hfile⟩

/-- What a disk shows after a text was written to a path. -/
structure ReadsBack (d : Disk) (p : Path) (t : Text) (l : Location) (d' : Disk) : Prop where
  locate_eq : d'.locate p = .ok l
  readText_eq : d'.readText p =
    .ok (Text.replaceAll ['\r'] ['\n'] (Text.replaceAll ['\r', '\n'] ['\n'] t))
  /-- All other files are as they were. -/
  fileAt?_eq : ∀ k ≠ l, d'.fileAt? k = d.fileAt? k
  /-- And they are read as before, by any path that led to them. -/
  readText_other : ∀ q, d'.locate q ≠ .ok l →
    (d.locate q = .error .missing → (".." : RawText) ∉ q.parts) → d'.readText q = d.readText q

theorem exists_readsBack (htree : d.IsTree) {t : Text} (h : d.writeText p t.raw = (.ok (), d')) :
    ∃ l, ReadsBack d p t l d' := by
  rcases writeText_cases d p t.raw with ⟨error, _, hw, -⟩ | ⟨e, l, hmade, hl, hd, hw⟩
  · cases h.symm.trans hw
  · rw [Utf8.encodeRaw_raw] at hw
    obtain rfl : d' = e.put l (.file (Utf8.encode t)) := (Prod.mk.inj (h.symm.trans hw)).2
    have hwrites := hmade.writes hl hd (Utf8.encode t)
    refine ⟨l, hwrites.locate_eq, ?_, hwrites.fileAt?_other, fun q hq hclimbs => ?_⟩
    · rw [hwrites.readText_eq, Text.unifyLineBreaks_eq_replaceAll]
    · rw [Ne, (sameDirectories_put hd _).locate_iff] at hq
      rw [readText_put hd _ hq]
      exact readText_congr (hmade.octets?_eq htree hclimbs)

/-- A text that was written is read again with a line feed for each of its line breaks, and as it
is when no carriage return is in it. Reading several paths is reading each of them, in order and up
to the first that fails. Every other file is read as before. -/
theorem readText_of_writeText (htree : d.IsTree) {t : Text}
    (h : d.writeText p t.raw = (.ok (), d')) :
    (∃ l, ReadsBack d p t l d') ∧ ('\r' ∉ t → d'.readText p = .ok t) ∧
      ∀ ps,
        (∀ files, d'.readAll ps = .ok files ↔
          files.map SourceFile.path = ps ∧ ∀ f ∈ files, d'.readText f.path = .ok f.content) ∧
        ∀ fault, d'.readAll ps = .error fault ↔ ∃ before q behind, ps = before ++ q :: behind ∧
          (∀ r ∈ before, ∃ u, d'.readText r = .ok u) ∧ d'.readText q = .error fault := by
  obtain ⟨l, hback⟩ := exists_readsBack htree h
  refine ⟨⟨l, hback⟩, fun hr => ?_, fun ps => ⟨fun files => ?_, fun fault => ?_⟩⟩
  · rw [hback.readText_eq, ← Text.unifyLineBreaks_eq_replaceAll, Text.unifyLineBreaks_eq_self hr]
  · exact readAll_eq_ok_iff
  · exact readAll_eq_error_iff

/-- A single file, with a line break of two characters. -/
def notesDisk : Disk where
  entries := [(["notes"], .file (Utf8.encode "kept\r\n"))]
  here := []

def writtenDisk : Disk := (notesDisk.writeText (Path.ofText "out/new/list") "a\r\r\nb\r").2

/-- Directories are made for the new file, and the old one is read as before. -/
theorem readText_of_writeText_nested :
    notesDisk.IsTree ∧
      notesDisk.writeText (Path.ofText "out/new/list") "a\r\r\nb\r" = (.ok (), writtenDisk) ∧
      writtenDisk.readAll [Path.ofText "out/new/list", Path.ofText "notes"] =
        .ok [⟨Path.ofText "out/new/list", "a\n\nb\n"⟩, ⟨Path.ofText "notes", "kept\n"⟩] := by
  have htree : notesDisk.IsTree := by decide +kernel
  have hok : (notesDisk.writeText (Path.ofText "out/new/list") "a\r\r\nb\r").1 = .ok () := by
    decide +kernel
  have hwrite : notesDisk.writeText (Path.ofText "out/new/list") "a\r\r\nb\r" =
      (.ok (), writtenDisk) := Prod.ext hok rfl
  obtain ⟨⟨l, hback⟩, -, hall⟩ := readText_of_writeText htree hwrite
  have hlist : writtenDisk.readText (Path.ofText "out/new/list") = .ok "a\n\nb\n" := by
    rw [hback.readText_eq, ← Text.unifyLineBreaks_eq_replaceAll]
    decide
  have hnotes : writtenDisk.readText (Path.ofText "notes") = .ok "kept\n" := by
    have hl : writtenDisk.locate (Path.ofText "out/new/list") ≠
        writtenDisk.locate (Path.ofText "notes") := by decide +kernel
    rw [hback.locate_eq] at hl
    rw [hback.readText_other _ hl.symm (by decide +kernel)]
    decide +kernel
  refine ⟨htree, hwrite, ?_⟩
  rw [(hall _).1]
  exact ⟨rfl, by simpa using ⟨hlist, hnotes⟩⟩

end DtoInterfaces.Disk
