import DtoInterfaces.Proofs.Disk.Tree
import DtoInterfaces.Proofs.Interface.Notices
import DtoInterfaces.Session.Step

namespace DtoInterfaces

open Interface

/-- What parsing reports of a source. -/
def unparsedNotices (source : RawText × Text) : List Diagnostic :=
  if (Source.classDecl? source.2).isNone then [.unparsedSource source.1] else []

/-- All that is reported of a source: that it has no class, or what its class gives rise to. -/
def sourceNotices (source : RawText × Text) : List Diagnostic :=
  match Source.classDecl? source.2 with
  | none => [.unparsedSource source.1]
  | some c => classNotices c

/-- The diagnostics with those of unparsed sources in front, and otherwise in their order. -/
def unparsedFirst (ds : List Diagnostic) : List Diagnostic :=
  ds.filter (·.code == ("W001" : Text)) ++ ds.filter (·.code != ("W001" : Text))

theorem code_of_mem_classNotices {c : ClassDecl} {d : Diagnostic} (h : d ∈ classNotices c) :
    d.code ≠ "W001" := by
  obtain ⟨p, -, hp⟩ := List.mem_flatMap.1 h
  have hcodes : ("W003" : Text) ≠ "W001" ∧ ("W002" : Text) ≠ "W001" ∧ ("I001" : Text) ≠ "W001" := by
    decide
  rcases of_mem_notices hp with rfl | ⟨name, rfl⟩ | ⟨name, rfl⟩
  · exact hcodes.1
  · exact hcodes.2.1
  · exact hcodes.2.2

theorem filter_unparsed_sourceNotices (source : RawText × Text) :
    (sourceNotices source).filter (·.code == ("W001" : Text)) = unparsedNotices source := by
  unfold sourceNotices unparsedNotices
  cases Source.classDecl? source.2 with
  | none => rfl
  | some c =>
    refine List.filter_eq_nil_iff.2 fun d hd => ?_
    simpa using code_of_mem_classNotices hd

theorem filter_parsed_sourceNotices (source : RawText × Text) :
    (sourceNotices source).filter (·.code != ("W001" : Text)) =
      (Source.classDecl? source.2).toList.flatMap classNotices := by
  unfold sourceNotices
  cases Source.classDecl? source.2 with
  | none => rfl
  | some c =>
    have hkept : (classNotices c).filter (·.code != ("W001" : Text)) = classNotices c :=
      List.filter_eq_self.2 fun d hd => by simpa using code_of_mem_classNotices hd
    simpa using hkept

/-- Parsing first and emitting later brings the unparsed sources to the front. -/
theorem unparsedFirst_sourceNotices (sources : List (RawText × Text)) :
    unparsedFirst (sources.flatMap sourceNotices) = sources.flatMap unparsedNotices ++
      (sources.filterMap (Source.classDecl? ·.2)).flatMap classNotices := by
  rw [unparsedFirst, List.filter_flatMap, List.filter_flatMap, List.filterMap_eq_flatMap_toList,
    List.flatMap_assoc]
  simp only [filter_unparsed_sourceNotices, filter_parsed_sourceNotices]

theorem Disk.exists_readAll {d : Disk} {paths : List Path}
    (h : ∀ p ∈ paths, ∃ t, d.readText p = .ok t) :
    ∃ files, d.readAll paths = .ok files ∧ files.map SourceFile.path = paths ∧
      ∀ f ∈ files, d.readText f.path = .ok f.content := by
  induction paths with
  | nil => exact ⟨[], rfl, rfl, by simp⟩
  | cons p paths ih =>
    obtain ⟨⟨t, ht⟩, hps⟩ := List.forall_mem_cons.1 h
    obtain ⟨files, hread, hpaths, hfiles⟩ := ih hps
    refine ⟨⟨p, t⟩ :: files, ?_, by simp [hpaths], List.forall_mem_cons.2 ⟨ht, hfiles⟩⟩
    rw [readAll] at hread ⊢
    rw [List.mapM_cons, ht, hread]
    rfl

theorem parseSources_fst (c : Collector) (sources : List (RawText × Text)) :
    (parseSources c sources).1 = sources.filterMap (Source.classDecl? ·.2) := by
  induction sources generalizing c with
  | nil => rfl
  | cons source sources ih =>
    obtain ⟨identifier, t⟩ := source
    rw [parseSources, List.filterMap_cons]
    cases Source.classDecl? t with
    | none => simp only [ih]
    | some parsed => simp only [ih]

theorem parseSources_snd_snd (c : Collector) (sources : List (RawText × Text)) :
    (parseSources c sources).2.2 = c.reportAll (sources.flatMap unparsedNotices) := by
  induction sources generalizing c with
  | nil => simp [parseSources]
  | cons source sources ih =>
    obtain ⟨identifier, t⟩ := source
    rw [parseSources, List.flatMap_cons, unparsedNotices]
    cases Source.classDecl? t with
    | none => simp [ih, Collector.report]
    | some parsed => simp [ih]

namespace Session

/-- The results of a list of steps. -/
def answers (s : Setup) (σ : Session) (steps : List Step) : List (Except Failure Answer) :=
  (run s σ steps).map (·.outcome.result)

/-- The session with more reports. -/
def reported (σ : Session) (ds : List Diagnostic) : Session :=
  { σ with collector := σ.collector.reportAll ds }

/-- The session after `n` readings of its clock. -/
def later (σ : Session) (n : Nat) : Session := { σ with clock := σ.clock.after n }

/-- The interface of a text that has a class. -/
def interface? (s : Setup) (now : Timestamp) (t : Text) : Option RawText :=
  (Source.classDecl? t).map fun c => (emit s.config.options now none c).1

variable {s : Setup}

theorem answers_cons (σ : Session) (step : Step) (rest : List Step) :
    answers s σ (step :: rest) = (perform s σ step).outcome.result ::
      answers s (perform s σ step).outcome.session rest := rfl

theorem answers_diagnostics (σ : Session) :
    answers s σ [.diagnostics] = [.ok (.diagnostics σ.collector.entries)] := rfl

@[simp] theorem reported_nil (σ : Session) : σ.reported [] = σ := by
  simp [reported]

@[simp] theorem reported_reported (σ : Session) (ds es : List Diagnostic) :
    (σ.reported ds).reported es = σ.reported (ds ++ es) := by
  simp [reported]

@[simp] theorem entries_reported (σ : Session) (ds : List Diagnostic) :
    (σ.reported ds).collector.entries = σ.collector.entries ++ ds := by
  simp [reported]

@[simp] theorem later_zero (σ : Session) : σ.later 0 = σ := by
  simp [later]

/-- Without time stamps the clock is not read. -/
theorem later_of_unstamped (ho : s.config.options.stamped = false) (σ : Session) (n : Nat) :
    σ.later (n * readings s.config.options) = σ := by
  simp [readings, ho]

theorem generate_eq (s : Setup) (σ : Session) (cs : List ClassDecl) :
    generate s σ cs =
      ⟨.ok (Text.join "\n\n" (declarations s.config.options σ.clock cs)), [],
        (σ.reported (cs.flatMap classNotices)).later (cs.length * readings s.config.options)⟩ := by
  rw [generate, emitAll_eq]
  rfl

theorem transpileFile_of_readText (s : Setup) {σ : Session} {path : RawText} {t : Text}
    (h : σ.disk.readText (Path.ofText path) = .ok t) :
    (transpileFile s σ path).result = .ok (interface? s (σ.clock 0) t) ∧
      (transpileFile s σ path).session = (σ.reported (sourceNotices (path, t))).later
        ((Source.classDecl? t).toList.length * readings s.config.options) := by
  unfold transpileFile interface? sourceNotices
  rw [h]
  cases hc : Source.classDecl? t with
  | none => simp [parseSources, hc, reported, Collector.report]
  | some c =>
    simp [parseSources, hc, reported, generate_eq, Outcome.map, Text.join, Except.map,
      declarations]

theorem interface?_of_unstamped (ho : s.config.options.stamped = false) (now now' : Timestamp) :
    interface? s now' = interface? s now := by
  funext t
  simp only [interface?, emit_fst, ho, Bool.false_eq_true, if_false]

theorem answers_transpileFile (ho : s.config.options.stamped = false) (now : Timestamp)
    {σ : Session} {sources : List (RawText × Text)}
    (h : ∀ source ∈ sources, σ.disk.readText (Path.ofText source.1) = .ok source.2)
    (rest : List Step) :
    answers s σ (sources.map (fun source => .transpileFile source.1) ++ rest) =
      sources.map (fun source => .ok (.text (interface? s now source.2))) ++
        answers s (σ.reported (sources.flatMap sourceNotices)) rest := by
  induction sources generalizing σ with
  | nil => simp
  | cons source sources ih =>
    obtain ⟨path, t⟩ := source
    obtain ⟨hsource, hsources⟩ := List.forall_mem_cons.1 h
    obtain ⟨hresult, hsession⟩ := transpileFile_of_readText s hsource
    rw [interface?_of_unstamped ho now] at hresult
    rw [later_of_unstamped ho] at hsession
    have hstep : (perform s σ (.transpileFile path)).outcome =
        (transpileFile s σ path).map .text := rfl
    -- reports leave the disk as it is, so the files that follow read the same
    have hrest := ih (σ := σ.reported (sourceNotices (path, t))) hsources
    rw [List.map_cons, List.cons_append, answers_cons, hstep, Outcome.map, hresult, hsession,
      hrest, reported_reported]
    rfl

/-- The classes of the files that have one. -/
def classesOf (files : List SourceFile) : List ClassDecl :=
  files.filterMap (Source.classDecl? ·.content)

theorem filterMap_classDecl? (files : List SourceFile) :
    (files.map fun f => (f.path.toText, f.content)).filterMap (Source.classDecl? ·.2) =
      classesOf files :=
  List.filterMap_map

theorem transpileFiles_session (s : Setup) (σ : Session) (files : List SourceFile) :
    (transpileFiles s σ files).session = (σ.reported (unparsedFirst
      ((files.map fun f => (f.path.toText, f.content)).flatMap sourceNotices))).later
        ((classesOf files).length * readings s.config.options) := by
  rw [unparsedFirst_sourceNotices, transpileFiles]
  simp only [parseSources_fst, parseSources_snd_snd, filterMap_classDecl?]
  split
  · next hnone =>
    rw [List.isEmpty_iff.1 hnone, List.flatMap_nil, List.append_nil, List.length_nil, Nat.zero_mul,
      later_zero]
    rfl
  · simp [generate_eq, reported, later]

theorem transpileFiles_result (s : Setup) (σ : Session) (files : List SourceFile) :
    (transpileFiles s σ files).result =
      if classesOf files = [] then .error .noClasses
      else .ok (Text.join "\n\n" (declarations s.config.options σ.clock (classesOf files))) := by
  rw [transpileFiles]
  simp only [parseSources_fst, filterMap_classDecl?, List.isEmpty_iff]
  split
  · rfl
  · rw [generate_eq]

/-- Without time stamps the interfaces are those of the files by themselves. -/
theorem transpileFiles_of_unstamped (ho : s.config.options.stamped = false) (now : Timestamp)
    (σ : Session) (files : List SourceFile) :
    (transpileFiles s σ files).result =
      if ∀ f ∈ files, interface? s now f.content = none then .error .noClasses
      else .ok (Text.join "\n\n" (files.filterMap (fun f => interface? s now f.content))) := by
  have hnone : classesOf files = [] ↔ ∀ f ∈ files, interface? s now f.content = none := by
    simp [interface?, classesOf, List.filterMap_eq_nil_iff]
  have htexts : declarations s.config.options σ.clock (classesOf files) =
      files.filterMap (fun f => interface? s now f.content) := by
    rw [declarations_of_unstamped ho _ now none]
    exact List.map_filterMap
  rw [transpileFiles_result, htexts]
  simp only [hnone]

/-- The files that a scan finds can be read when they are UTF-8, also by their written paths. -/
theorem exists_files_of_scan {σ : Session} {paths : List Path} (htree : σ.disk.IsTree)
    (hscan : (scan s σ).result = .ok paths)
    (hutf8 : ∀ p ∈ paths, ∀ octets ∈ σ.disk.octets? p, ∃ t, Utf8.decode octets = .ok t) :
    ∃ files, σ.disk.readAll paths = .ok files ∧ files.map SourceFile.path = paths ∧
      ∀ f ∈ files, σ.disk.readText (Path.ofText f.path.toText) = .ok f.content := by
  obtain ⟨found, hfound, rfl⟩ : ∃ found, σ.disk.scan s.base s.config.patterns = .ok found ∧
      found.map Location.path = paths := by
    rw [scan] at hscan
    split at hscan
    · cases hscan
    · next found hfound => exact ⟨found, hfound, Except.ok.inj hscan⟩
  have hread : ∀ p ∈ found.map Location.path,
      (∃ t, σ.disk.readText p = .ok t) ∧ Path.ofText p.toText = p := by
    intro p hp
    obtain ⟨l, hl, rfl⟩ := List.mem_map.1 hp
    obtain ⟨octets, hfile⟩ := Disk.exists_octets_of_mem_scan hfound hl
    have hoctets := htree.octets?_path hfile
    obtain ⟨t, ht⟩ := hutf8 l.path hp octets hoctets
    refine ⟨⟨Text.unifyLineBreaks t, ?_⟩, Path.ofText_toText_path (htree.isEntryName hfile)⟩
    rw [Disk.readText, hoctets]
    simp only [ht]
  obtain ⟨files, hall, hpaths, hfiles⟩ := Disk.exists_readAll fun p hp => (hread p hp).1
  refine ⟨files, hall, hpaths, fun f hf => ?_⟩
  rw [(hread f.path (hpaths ▸ List.mem_map_of_mem hf)).2]
  exact hfiles f hf

theorem transpile_of_readAll {σ : Session} {paths : List Path} {files : List SourceFile}
    (hscan : (scan s σ).result = .ok paths) (hread : σ.disk.readAll paths = .ok files)
    (hne : paths ≠ []) :
    (transpile s σ).result = (transpileFiles s σ files).result ∧
      (transpile s σ).session = (transpileFiles s σ files).session := by
  cases paths with
  | nil => exact absurd rfl hne
  | cons p paths =>
    rw [transpile]
    simp only [hscan, hread]
    trivial

theorem transpile_eq (ho : s.config.options.stamped = false) (now : Timestamp) {σ : Session}
    {files : List SourceFile}
    (hscan : (scan s σ).result = .ok (files.map SourceFile.path))
    (hread : σ.disk.readAll (files.map SourceFile.path) = .ok files) :
    (transpile s σ).result =
        (if files = [] then .error .noSources
        else if ∀ f ∈ files, interface? s now f.content = none then .error .noClasses
        else .ok (Text.join "\n\n" (files.filterMap (fun f => interface? s now f.content)))) ∧
      (transpile s σ).session = σ.reported (unparsedFirst
        ((files.map fun f => (f.path.toText, f.content)).flatMap sourceNotices)) := by
  by_cases hne : files = []
  · subst hne
    rw [transpile]
    simp only [hscan]
    simp [unparsedFirst]
  · obtain ⟨hresult, hsession⟩ := transpile_of_readAll hscan hread (by simpa using hne)
    rw [hresult, hsession, if_neg hne]
    refine ⟨transpileFiles_of_unstamped ho now σ files, ?_⟩
    rw [transpileFiles_session, later_of_unstamped ho]

/-- All files at once and one file after the other come to the same. There is nothing to write when
no file is found or none has a class; else the interfaces of the files are joined. The reports
differ in their order alone. -/
theorem transpile_eq_each {σ : Session} {paths : List Path} (htree : σ.disk.IsTree)
    (ho : s.config.options.stamped = false) (hscan : (scan s σ).result = .ok paths)
    (hutf8 : ∀ p ∈ paths, ∀ octets ∈ σ.disk.octets? p, ∃ t, Utf8.decode octets = .ok t)
    (clock : Clock) :
    ∃ (texts : List (Option RawText)) (added : List Diagnostic),
      answers s { σ with clock } (paths.map (fun p => .transpileFile p.toText) ++ [.diagnostics]) =
        texts.map (fun t => .ok (.text t)) ++
          [.ok (.diagnostics (σ.collector.entries ++ added))] ∧
      answers s σ [.transpile, .diagnostics] =
        [if paths = [] then .error .noSources
          else if ∀ t ∈ texts, t = none then .error .noClasses
          else .ok (.text (some (Text.join "\n\n" (texts.filterMap id)))),
          .ok (.diagnostics (σ.collector.entries ++ unparsedFirst added))] := by
  obtain ⟨files, hread, rfl, hfiles⟩ := exists_files_of_scan htree hscan hutf8
  let now := clock 0
  let sources := files.map fun f => (f.path.toText, f.content)
  refine ⟨files.map (fun f => interface? s now f.content), sources.flatMap sourceNotices, ?_, ?_⟩
  · have hsources : ∀ source ∈ sources,
        σ.disk.readText (Path.ofText source.1) = .ok source.2 := by
      intro source hs
      obtain ⟨f, hf, rfl⟩ := List.mem_map.1 hs
      exact hfiles f hf
    have heach := answers_transpileFile ho now (σ := { σ with clock }) hsources [.diagnostics]
    rw [answers_diagnostics, entries_reported, List.map_map, List.map_map] at heach
    rw [List.map_map, List.map_map]
    exact heach
  · obtain ⟨hresult, hsession⟩ := transpile_eq ho now hscan hread
    have hsteps : answers s σ [.transpile, .diagnostics] =
        [(transpile s σ).result.map fun t => .text (some t),
          .ok (.diagnostics (transpile s σ).session.collector.entries)] := rfl
    rw [hsteps, hresult, hsession, entries_reported, List.filterMap_map]
    simp only [List.map_eq_nil_iff, List.forall_mem_map]
    split
    · rfl
    · split <;> rfl

/-- Two files with a class and between them one without. -/
def mixedDisk : Disk where
  entries := [(["w"], .directory),
    (["w", "Order.cs"],
      .file (Utf8.encode "public class Order \x7b public List<Tag> Tags \x7b get; set; \x7d \x7d")),
    (["w", "Readme.cs"], .file (Utf8.encode "// Nothing here.")),
    (["w", "parts"], .directory),
    (["w", "parts", "Tag.cs"], .file (Utf8.encode "public class Tag \x7b \x7d"))]
  here := ["w"]

def mixedSetup : Setup where
  config :=
    { patterns := ["**/Order.cs", "Readme.cs", "**/Tag.cs"]
      output := "generated.ts"
      options := { stamped := false } }
  base := ⟨[], []⟩
  verbose := false

def mixedSession : Session := ⟨mixedDisk, {}, .stopped ⟨2024, 1, 2, 3, 4, 5, 0, none⟩⟩

def mixedPaths : List Path :=
  [⟨"/", ["w", "Order.cs"]⟩, ⟨"/", ["w", "Readme.cs"]⟩, ⟨"/", ["w", "parts", "Tag.cs"]⟩]

theorem scan_mixedDisk : (scan mixedSetup mixedSession).result = .ok mixedPaths := by
  have hglobs : (mixedSetup.config.patterns.filter fun pattern => !pattern.isEmpty).mapM
      (Glob.expand mixedDisk mixedSetup.base) = .ok (mixedPaths.map fun p => [p.parts]) := by
    decide +kernel
  have hsorted : (mixedPaths.map (·.parts)).mergeSort (fun a b => !decide (b < a)) =
      mixedPaths.map (·.parts) := List.mergeSort_of_pairwise (by decide)
  have hfound : mixedDisk.scan mixedSetup.base mixedSetup.config.patterns =
      .ok (mixedPaths.map (·.parts)) := by
    rw [Disk.scan, hglobs, ← hsorted]
    rfl
  rw [scan, show mixedSession.disk = mixedDisk from rfl, hfound]
  rfl

theorem decode_mixedDisk : ∀ p ∈ mixedPaths, ∀ octets ∈ mixedDisk.octets? p,
    ∃ t, Utf8.decode octets = .ok t := by
  have hdecoded : ∀ p ∈ mixedPaths, ∀ octets ∈ mixedDisk.octets? p,
      (Utf8.decode octets).toOption.isSome := by
    decide +kernel
  intro p hp octets ho
  obtain ⟨t, ht⟩ := Option.isSome_iff_exists.1 (hdecoded p hp octets ho)
  cases hd : Utf8.decode octets with
  | error fault => simp [hd, Except.toOption] at ht
  | ok t => exact ⟨t, rfl⟩

/-- The file without a class comes second, and the report on it first. -/
theorem transpile_eq_each_mixedDisk : mixedDisk.IsTree ∧
    answers mixedSetup mixedSession [.transpile, .diagnostics] =
      [.ok (.text (some ("export interface Order \x7b\n  Tags: Tag[];\n\x7d\n\n" ++
        "export interface Tag \x7b\n  // No properties\n\x7d"))),
      .ok (.diagnostics
        [.unparsedSource "/w/Readme.cs", .customType "Tag" (some "Order") []])] := by
  have htree : mixedDisk.IsTree := by decide +kernel
  obtain ⟨texts, added, heach, hall⟩ :=
    transpile_eq_each htree rfl scan_mixedDisk decode_mixedDisk mixedSession.clock
  have hlist : answers mixedSetup mixedSession
      (mixedPaths.map (fun p => .transpileFile p.toText) ++ [.diagnostics]) =
        [some ("export interface Order \x7b\n  Tags: Tag[];\n\x7d" : RawText), none,
          some ("export interface Tag \x7b\n  // No properties\n\x7d" : RawText)].map
            (fun t => .ok (.text t)) ++
        [.ok (.diagnostics
          [.customType "Tag" (some "Order") [], .unparsedSource "/w/Readme.cs"])] := by
    decide +kernel
  obtain ⟨htexts, hadded⟩ := List.append_inj' (hlist.symm.trans heach) rfl
  obtain rfl := (List.map_inj_right (by simp)).1 htexts
  obtain rfl : _ = added := by simpa [mixedSession] using hadded
  exact ⟨htree, hall.trans (by decide +kernel)⟩

end Session

end DtoInterfaces
