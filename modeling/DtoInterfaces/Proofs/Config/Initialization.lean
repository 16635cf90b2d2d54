import DtoInterfaces.Proofs.Config.Normalization
import DtoInterfaces.Proofs.Disk.Writing
import DtoInterfaces.Proofs.Json.RoundTrip

namespace DtoInterfaces.Config

open Disk

/-- A configuration as it is written to a file. -/
def fileText (c : Config) : Text := Json.print c.toJson ++ ['\n']

/-- Whether no surrogate stands in a configuration. -/
structure IsText (c : Config) : Prop where
  patterns : ∀ pattern ∈ c.patterns, ∃ t : Text, pattern = t.raw
  output : ∃ t : Text, c.output = t.raw
  indentation : ∃ t : Text, c.options.indentation = t.raw

variable {d d' : Disk} {path : RawText} {l : Location} {c : Config}

theorem IsText.plain_toJson (h : c.IsText) : c.toJson.Plain := by
  have htext {t : RawText} (ht : ∃ u : Text, t = u.raw) : Json.Plain (.text t) := by
    obtain ⟨u, rfl⟩ := ht
    exact .text u
  have hpatterns : Json.Plain (.array (c.patterns.map .text)) :=
    .array (List.forall_mem_map.2 fun t ht => htext (h.patterns t ht))
  have hoptions : c.options.toJson.Plain := by
    refine .object ?_ (by simpa using ⟨htext h.indentation, .bool _, .bool _, .text _⟩)
    simp only [List.forall_mem_cons]
    exact ⟨⟨_, rfl⟩, ⟨_, rfl⟩, ⟨_, rfl⟩, ⟨_, rfl⟩, List.forall_mem_nil _⟩
  refine .object ?_ (by simpa using ⟨hpatterns, htext h.output, hoptions⟩)
  simp only [List.forall_mem_cons]
  exact ⟨⟨_, rfl⟩, ⟨_, rfl⟩, ⟨_, rfl⟩, List.forall_mem_nil _⟩

theorem IsText.unifyLineBreaks_fileText (h : c.IsText) :
    c.fileText.unifyLineBreaks = c.fileText := by
  refine Text.unifyLineBreaks_eq_self fun hr => ?_
  rcases List.mem_append.1 hr with hr | hr
  · exact absurd (h.plain_toJson.isShown 0 _ hr) (by decide)
  · exact absurd hr (by decide)

theorem IsText.ofText_fileText (h : c.IsText) (hpatterns : c.patterns ≠ [])
    (houtput : c.output ≠ []) (path : RawText) : ofText path c.fileText = .ok c := by
  rw [ofText, fileText, Json.read_print h.plain_toJson]
  exact ofJson_eq_ok_iff.2 (describes_toJson hpatterns houtput)

/-- A configuration that was written is loaded again. -/
theorem IsText.load_of_writes (h : c.IsText) (hpatterns : c.patterns ≠ []) (houtput : c.output ≠ [])
    (hw : Writes d (Path.ofText path) (Utf8.encode c.fileText) l d') : load d' path = .ok c := by
  rw [load, hw.readText_eq, h.unifyLineBreaks_fileText]
  exact h.ofText_fileText hpatterns houtput path

theorem isText_default : default.IsText :=
  ⟨fun _ h => ⟨_, List.mem_singleton.1 h⟩, ⟨_, rfl⟩, _, rfl⟩

theorem init_of_pathExists (h : d.pathExists (Path.ofText path)) :
    init d path = (.error (.config (.fileExists path)), d) := by
  rw [init]
  exact if_pos h

theorem init_of_not_pathExists (h : d.pathExists (Path.ofText path) = false) :
    init d path = (((d.writeText (Path.ofText path) default.fileText.raw).1.map fun _ =>
        Path.ofText path).mapError .write,
      (d.writeText (Path.ofText path) default.fileText.raw).2) := by
  rw [init, fileText]
  simp only [h, Bool.false_eq_true, if_false]
  rcases d.writeText (Path.ofText path) _ with ⟨result, d'⟩
  cases result <;> rfl

theorem loadOrDefault_of_pathExists (h : d.pathExists (Path.ofText path)) :
    loadOrDefault d path = load d path := by
  rw [loadOrDefault, if_pos h]

/-- The default configuration was written to a path that led nowhere. -/
structure Initialized (d : Disk) (path : RawText) (l : Location) (d' : Disk) : Prop where
  writes : Writes d (Path.ofText path) (Utf8.encode default.fileText) l d'
  /-- What is replaced, if anything, was out of reach for want of a directory. -/
  replaces : ∀ x, d.get? l = some x →
    d.locate (Path.ofText path) = .error .missing ∧ (".." : RawText) ∈ (Path.ofText path).parts
  load_eq : load d' path = .ok default
  loadOrDefault_eq : loadOrDefault d' path = loadOrDefault d path
  init_eq : init d' path = (.error (.config (.fileExists path)), d')

theorem Initialized.of_writes (htree : d.IsTree) (habsent : d.pathExists (Path.ofText path) = false)
    (h : Writes d (Path.ofText path) (Utf8.encode default.fileText) l d') :
    Initialized d path l d' := by
  have hfind : d.find? (Path.ofText path) = none := by simpa [pathExists] using habsent
  have hexists : d'.pathExists (Path.ofText path) := by
    rw [pathExists, h.find?_eq]
    rfl
  have hload : load d' path = .ok default :=
    isText_default.load_of_writes (by decide) (by decide) h
  refine ⟨h, fun x hx => h.eq_missing_of_get? htree hfind hx, hload, ?_, init_of_pathExists hexists⟩
  rw [loadOrDefault_of_pathExists hexists, hload, loadOrDefault, habsent]
  rfl

/-- Where the path leads nowhere, the writing fails or the path leads there from then on. -/
theorem init_of_absent (htree : d.IsTree) (h : d.pathExists (Path.ofText path) = false) :
    (∃ error d', init d path = (.error (.write (.disk error)), d') ∧ SameFiles d d') ∨
      ∃ l d', init d path = (.ok (Path.ofText path), d') ∧ Initialized d path l d' := by
  rw [init_of_not_pathExists h]
  rcases writeText_raw d (Path.ofText path) default.fileText with
    ⟨error, d', hw, hsame⟩ | ⟨l, d', hw, hwrites⟩
  · rw [hw]
    exact .inl ⟨error, d', rfl, hsame⟩
  · rw [hw]
    exact .inr ⟨l, d', rfl, .of_writes htree h hwrites⟩

/-- Where the path leads to something, that is a fault, nothing changes, and the configuration that
is loaded is the one that is there. Anywhere else the writing fails and leaves all files as they
were, or it succeeds, and then the path leads to the default configuration. -/
theorem init_leaves (htree : d.IsTree) (path : RawText) :
    (d.pathExists (Path.ofText path) = true ∧
        init d path = (.error (.config (.fileExists path)), d) ∧
        loadOrDefault d path = load d path) ∨
      d.pathExists (Path.ofText path) = false ∧
        ((∃ error d', init d path = (.error (.write (.disk error)), d') ∧ SameFiles d d') ∨
          ∃ l d', init d path = (.ok (Path.ofText path), d') ∧ Initialized d path l d') := by
  cases h : d.pathExists (Path.ofText path) with
  | true => exact .inl ⟨rfl, init_of_pathExists h, loadOrDefault_of_pathExists h⟩
  | false => exact .inr ⟨rfl, init_of_absent htree h⟩

/-- A file alone. -/
def oneFileDisk : Disk where
  entries := [(["b.json"], .file (Utf8.encode "\x7b\x7d"))]
  here := []

/-- The file is safe under its own name, but not from a path that climbs to it. -/
theorem init_leaves_climbing :
    oneFileDisk.IsTree ∧ oneFileDisk.fileAt? ["b.json"] = some (Utf8.encode "\x7b\x7d") ∧
      init oneFileDisk "b.json" = (.error (.config (.fileExists "b.json")), oneFileDisk) ∧
      ∃ d', init oneFileDisk "a/../b.json" = (.ok (Path.ofText "a/../b.json"), d') ∧
        Initialized oneFileDisk "a/../b.json" ["b.json"] d' ∧
        d'.fileAt? ["b.json"] = some (Utf8.encode default.fileText) := by
  have htree : oneFileDisk.IsTree := by decide +kernel
  have hexists : oneFileDisk.pathExists (Path.ofText "b.json") = true := by decide +kernel
  have habsent : oneFileDisk.pathExists (Path.ofText "a/../b.json") = false := by decide +kernel
  have hok : (init oneFileDisk "a/../b.json").1 = .ok (Path.ofText "a/../b.json") := by
    decide +kernel
  have hlocate : (init oneFileDisk "a/../b.json").2.locate (Path.ofText "a/../b.json") =
      .ok ["b.json"] := by decide +kernel
  refine ⟨htree, by decide +kernel, ?_, ?_⟩
  · rcases init_leaves htree "b.json" with ⟨-, hinit, -⟩ | ⟨hnone, -⟩
    · exact hinit
    · cases hexists.symm.trans hnone
  · rcases init_leaves htree "a/../b.json" with ⟨hsome, -⟩ | ⟨-, ⟨error, d', hinit, -⟩ | h⟩
    · cases habsent.symm.trans hsome
    · rw [hinit] at hok
      cases hok
    · obtain ⟨l, d', hinit, h⟩ := h
      rw [hinit] at hlocate
      obtain rfl : l = ["b.json"] := Except.ok.inj (h.writes.locate_eq.symm.trans hlocate)
      exact ⟨d', hinit, h, h.writes.fileAt?_self⟩

end DtoInterfaces.Config
