import DtoInterfaces.Proofs.CommandLine.Files
import DtoInterfaces.Proofs.Disk.Replacement

namespace DtoInterfaces

open Disk Interface

attribute [ext] Disk

/-- The same sources are found on both disks and have the same texts. -/
structure ReadsAlike (base : Path) (c : Config) (d d' : Disk) : Prop where
  scan_eq : d'.scan base c.patterns = d.scan base c.patterns
  readAll_eq : ∀ found, d.scan base c.patterns = .ok found →
    d'.readAll (found.map Location.path) = d.readAll (found.map Location.path)

theorem ReadsAlike.refl (base : Path) (c : Config) (d : Disk) : ReadsAlike base c d d :=
  ⟨rfl, fun _ _ => rfl⟩

theorem Disk.readAll_congr {d d' : Disk} {paths : List Path}
    (h : ∀ p ∈ paths, d'.readText p = d.readText p) : d'.readAll paths = d.readAll paths := by
  induction paths with
  | nil => rfl
  | cons p paths ih =>
    obtain ⟨hp, hpaths⟩ := List.forall_mem_cons.1 h
    rw [readAll] at ih ⊢
    rw [List.mapM_cons, hp, ih hpaths, readAll, readAll, List.mapM_cons]

/-- A file that no pattern matches is no source. -/
theorem readsAlike_put {d : Disk} (htree : d.IsTree) (hlist : d.ListsOnce) {l : Location}
    (hl : d.get? l ≠ some .directory) (octets : List UInt8) {base : Path} {c : Config}
    (hout : ¬ (d.put l (.file octets)).Matches base c.patterns l) :
    ReadsAlike base c d (d.put l (.file octets)) := by
  have hscan := scan_put hlist hl octets hout
  refine ⟨hscan, fun found hfound => readAll_congr fun p hp => readText_put hl octets ?_⟩
  obtain ⟨k, hk, rfl⟩ := List.mem_map.1 hp
  obtain ⟨old, hold⟩ := exists_octets_of_mem_scan hfound hk
  have hlocate : d.locate k.path = .ok k := htree.walk_eq k [] hold
  rw [hlocate]
  rintro ⟨⟩
  exact hout (matches_of_mem_scan (hscan.trans hfound) hk)

/-- The outcome with another disk in the end, and with another clock. -/
def Outcome.onDisk {α : Type} (o : Outcome α) (d : Disk) (clock : Clock) : Outcome α :=
  { o with session := { o.session with disk := d, clock } }

namespace Session

variable {s : Setup} {σ : Session}

/-- Without time stamps neither the clock nor the disk matters once the files are read. -/
theorem generate_onDisk (ho : s.config.options.stamped = false) (d : Disk) (clock : Clock)
    (cs : List ClassDecl) :
    generate s { σ with disk := d, clock } cs = (generate s σ cs).onDisk d clock := by
  rw [generate_eq, generate_eq, later_of_unstamped ho, later_of_unstamped ho,
    declarations_of_unstamped ho clock (σ.clock 0) none,
    declarations_of_unstamped ho σ.clock (σ.clock 0) none]
  rfl

theorem transpileFiles_onDisk (ho : s.config.options.stamped = false) (d : Disk) (clock : Clock)
    (files : List SourceFile) :
    transpileFiles s { σ with disk := d, clock } files =
      (transpileFiles s σ files).onDisk d clock := by
  rw [transpileFiles, transpileFiles]
  dsimp only
  generalize parseSources σ.collector (files.map fun f => (f.path.toText, f.content)) = parsed
  obtain ⟨classes, remarks, collector⟩ := parsed
  have hgenerate := generate_onDisk (σ := { σ with collector }) ho d clock classes
  dsimp only at hgenerate ⊢
  split
  · rfl
  · rw [hgenerate]
    rfl

theorem scan_onDisk {d : Disk} (clock : Clock) (h : ReadsAlike s.base s.config σ.disk d) :
    scan s { σ with disk := d, clock } = (scan s σ).onDisk d clock := by
  rw [scan, scan, h.scan_eq]
  cases σ.disk.scan s.base s.config.patterns <;> rfl

theorem transpile_onDisk (ho : s.config.options.stamped = false) {d : Disk} (clock : Clock)
    (h : ReadsAlike s.base s.config σ.disk d) :
    transpile s { σ with disk := d, clock } = (transpile s σ).onDisk d clock := by
  rw [transpile, transpile, scan_onDisk clock h]
  have hread (paths : List Path) (hpaths : (scan s σ).result = .ok paths) :
      d.readAll paths = σ.disk.readAll paths := by
    rw [scan] at hpaths
    split at hpaths
    · cases hpaths
    · next found hfound =>
      obtain rfl := Except.ok.inj hpaths
      exact h.readAll_eq found hfound
  cases hpaths : (scan s σ).result with
  | error failure => simp [Outcome.onDisk, hpaths]
  | ok paths =>
    cases paths with
    | nil => simp [Outcome.onDisk, hpaths]
    | cons p paths =>
      simp only [Outcome.onDisk, hpaths, hread _ hpaths]
      cases σ.disk.readAll (p :: paths) with
      | error fault => rfl
      | ok files =>
        simp only [transpileFiles_onDisk ho d clock files]
        rfl

end Session

namespace CommandLine

/-- The configuration that a generation goes by. Two files named for it are none. -/
def Loads (d : Disk) (s : Settings) (c : Config) : Prop :=
  (s.positional = [] ∨ s.config = []) ∧
    Config.load d (configPath [s.config, s.positional]) = .ok c

/-- The generation stamps no time and writes next to what is there. Its target is not the
configuration, nor one of the sources on the disk `d'` that it leaves. -/
structure WritesApart (d d' : Disk) (s : Settings) (c : Config) : Prop where
  stamped : c.options.stamped = false
  parent : d.isDirectory (target s c).parent
  config : d.locate (target s c) ≠ d.locate (Path.ofText (configPath [s.config, s.positional]))
  sources : ∀ l, d'.locate (target s c) = .ok l → ¬ d'.Matches (Path.ofText ".") c.patterns l

/-- The disk as it was, or with a file put where the path leads. -/
inductive PutsAt (d : Disk) (p : Path) : Disk → Prop
  | nothing : PutsAt d p d
  | file {l : Location} (hp : d.locate p = .ok l) (hl : d.get? l ≠ some .directory)
      (octets : List UInt8) : PutsAt d p (d.put l (.file octets))

variable {d d' : Disk} {clock : Clock} {s : Settings} {c : Config} {path : RawText}

namespace PutsAt

theorem readsAlike (h : PutsAt d (target s c) d') (htree : d.IsTree) (hlist : d.ListsOnce)
    (hapart : WritesApart d d' s c) : ReadsAlike (Path.ofText ".") c d d' := by
  cases h with
  | nothing => exact .refl _ c d
  | file hp hl octets =>
    refine readsAlike_put htree hlist hl octets (hapart.sources _ ?_)
    exact (sameDirectories_put hl octets).locate_iff.2 hp

theorem load_eq (h : PutsAt d (target s c) d') (hapart : WritesApart d d' s c) :
    Config.load d' (configPath [s.config, s.positional]) =
      Config.load d (configPath [s.config, s.positional]) := by
  cases h with
  | nothing => rfl
  | file hp hl octets =>
    have hne := hapart.config
    rw [hp] at hne
    rw [Config.load, Config.load, readText_put hl octets hne.symm]

end PutsAt

theorem disk_fail (d : Disk) (printed : List RawText) (heading : RawText) (isExpected : Bool)
    (failure : Failure) : (fail d printed heading isExpected failure).disk = d := by
  unfold fail
  split <;> rfl

/-- What is printed and how the run ends, as far as that is not a matter of the disk it leaves. -/
theorem deliver_eq (setup : Setup) (s : Settings) (printed : List RawText) (σ : Session)
    (t : RawText) :
    deliver setup s printed σ t =
      if s.toStdout then
        ⟨.status 0, RawText.ofLines (printed ++ [t]), σ.collector.listing, σ.disk⟩
      else
        match σ.disk.writeText (target s setup.config) (t ++ "\n") with
        | (.ok (), d) => ⟨.status 0,
            RawText.ofLines (printed ++ ["Written: " ++ (target s setup.config).toText]),
            σ.collector.listing, d⟩
        | (.error fault, d) =>
          ⟨.failed (.write fault), RawText.ofLines (printed ++ []), [], d⟩ := by
  unfold deliver Session.write
  split
  · rfl
  · have htarget : Session.outputPath setup s.output = target s setup.config := rfl
    rw [htarget]
    dsimp only
    generalize σ.disk.writeText (target s setup.config) (t ++ "\n") = outcome
    obtain ⟨result, d⟩ := outcome
    cases result <;> rfl

/-- How a run ends after the sources were taken for interfaces. -/
def conclude (s : Settings) (path : RawText) (c : Config) (made : Outcome RawText) : Result :=
  let printed := ("Loaded config: " ++ path) :: made.printed
  match made.result with
  | .error failure => fail made.session.disk printed "Error: " (isEmptyRun failure) failure
  | .ok t => deliver ⟨c, Path.ofText ".", s.verbose⟩ s printed made.session t

theorem runWith_eq (d : Disk) (clock : Clock) (s : Settings) (path : RawText) (c : Config) :
    runWith d clock s path c = conclude s path c
      (Session.transpile ⟨c, Path.ofText ".", s.verbose⟩
        ⟨d, { verbose := s.verbose }, clock⟩) :=
  rfl

section Conclude

variable {made : Outcome RawText} (hmade : made.session.disk = d)
  (hparent : d.isDirectory (target s c).parent)
include hmade hparent

theorem putsAt_conclude : PutsAt d (target s c) (conclude s path c made).disk := by
  subst hmade
  unfold conclude
  dsimp only
  split
  · rw [disk_fail]
    exact .nothing
  · next t ht =>
    rw [deliver_eq]
    split
    · exact .nothing
    · rcases writeText_cases_of_parent (beq_iff_eq.1 hparent) (t ++ "\n") with
        ⟨error, hw⟩ | ⟨l, octets, result, hp, hl, hw, -⟩
      · rw [hw]
        exact .nothing
      · rw [hw]
        cases result <;> exact .file hp hl octets

/-- On the disk it left, the same end is reached. -/
theorem conclude_again (clock : Clock) :
    conclude s path c (made.onDisk (conclude s path c made).disk clock) =
      conclude s path c made := by
  subst hmade
  cases hresult : made.result with
  | error failure =>
    simp only [conclude, Outcome.onDisk, hresult, disk_fail]
  | ok t =>
    simp only [conclude, Outcome.onDisk, hresult, deliver_eq]
    by_cases hout : s.toStdout
    · simp only [if_pos hout]
    · rcases writeText_cases_of_parent (beq_iff_eq.1 hparent) (t ++ "\n") with
        ⟨error, hw⟩ | ⟨l, octets, result, -, -, hw, hagain⟩
      · simp only [if_neg hout, hw]
      · -- the file is there by then, in full or empty, and the same is put again
        cases result <;> simp only [if_neg hout, hw, hagain]

end Conclude

theorem putsAt_runWith (hparent : d.isDirectory (target s c).parent) :
    PutsAt d (target s c) (runWith d clock s path c).disk := by
  rw [runWith_eq]
  exact putsAt_conclude (Session.disk_transpile _ _) hparent

theorem runWith_again (htree : d.IsTree) (hlist : d.ListsOnce)
    (hapart : WritesApart d (runWith d clock s path c).disk s c) (clock' : Clock) :
    runWith (runWith d clock s path c).disk clock' s path c = runWith d clock s path c := by
  have hmade := Session.transpile_onDisk (s := ⟨c, Path.ofText ".", s.verbose⟩)
    (σ := ⟨d, { verbose := s.verbose }, clock⟩) hapart.stamped clock'
    ((putsAt_runWith hapart.parent).readsAlike htree hlist hapart)
  rw [runWith_eq _ clock']
  exact (congrArg _ hmade).trans
    (conclude_again (Session.disk_transpile _ _) hapart.parent clock')

theorem runGenerate_again (htree : d.IsTree) (hlist : d.ListsOnce)
    (hapart : ∀ c, Loads d s c → WritesApart d (runGenerate d clock s).disk s c)
    (clock' : Clock) :
    runGenerate (runGenerate d clock s).disk clock' s = runGenerate d clock s := by
  by_cases htwice : !s.positional.isEmpty && !s.config.isEmpty
  · simp only [runGenerate, htwice, if_true]
    rfl
  · have hnamed : s.positional = [] ∨ s.config = [] := by
      simpa [or_iff_not_imp_left] using htwice
    cases hload : Config.load d (configPath [s.config, s.positional]) with
    | error failure =>
      have hrun (clock : Clock) : runGenerate d clock s = fail d [] "Failed to load config: "
          (isConfigFailure failure) failure := by
        rw [runGenerate, if_neg htwice]
        simp only [hload]
      rw [hrun, disk_fail, hrun]
    | ok c =>
      have hrun {d' : Disk} (clock : Clock)
          (h : Config.load d' (configPath [s.config, s.positional]) = .ok c) :
          runGenerate d' clock s = runWith d' clock s (configPath [s.config, s.positional]) c := by
        rw [runGenerate, if_neg htwice]
        simp only [h]
      have hwrites := hapart c ⟨hnamed, hload⟩
      rw [hrun clock hload] at hwrites ⊢
      rw [hrun clock' (((putsAt_runWith hwrites.parent).load_eq hwrites).trans hload)]
      exact runWith_again htree hlist hwrites clock'

/-- A generation that stamps no time and writes apart from what it reads can be run again, also one
that failed: the second run ends and reports as the first one, and leaves the disk as that left
it. -/
theorem run_again (htree : d.IsTree) (hlist : d.ListsOnce) {dialect : Dialect}
    {arguments : List RawText}
    (h : ∀ s, request dialect arguments = .ok (.settings s) → s.positional ≠ "init" ∧
      ∀ c, Loads d s c → WritesApart d (run dialect d clock arguments).disk s c)
    (clock' : Clock) :
    run dialect (run dialect d clock arguments).disk clock' arguments =
      run dialect d clock arguments := by
  cases hrequest : request dialect arguments with
  | error fault => simp only [run, hrequest, usageError]
  | ok asked =>
    cases asked with
    | help => simp only [run, hrequest]
    | settings s =>
      obtain ⟨hs, hapart⟩ := h s hrequest
      have hrun (d : Disk) (clock : Clock) :
          run dialect d clock arguments = runGenerate d clock s := by
        simp only [run, hrequest, if_neg hs]
      rw [hrun] at hapart ⊢
      rw [hrun]
      exact runGenerate_again htree hlist hapart clock'

/-- A class that two patterns select, and the interfaces of an earlier run beside the sources. -/
def projectDisk : Disk where
  entries := [(["w"], .directory),
    (["w", "cs2ts.config.json"], .file (Utf8.encode
      ("\x7b\"input\": [\"src/*.cs\", \"**/Order.cs\"], \"output\": \"src/dto.ts\", " ++
        "\"options\": \x7b\"addTimestamp\": false\x7d\x7d"))),
    (["w", "src"], .directory),
    (["w", "src", "Order.cs"],
      .file (Utf8.encode "public class Order \x7b public List<Tag> Tags \x7b get; set; \x7d \x7d")),
    (["w", "src", "dto.ts"], .file (Utf8.encode "// From an earlier run."))]
  here := ["w"]

def projectConfig : Config where
  patterns := ["src/*.cs", "**/Order.cs"]
  output := "src/dto.ts"
  options := { stamped := false }

def projectRun : Result :=
  run .late projectDisk (.stopped ⟨2024, 1, 2, 3, 4, 5, 0, none⟩) ["-v"]

def projectOutput : List UInt8 :=
  Utf8.encode "export interface Order \x7b\n  Tags: Tag[];\n\x7d\n"

/-- A year later the same interfaces are written again. -/
theorem run_again_project : projectRun.ending = .status 0 ∧
    projectRun.disk = projectDisk.put ["w", "src", "dto.ts"] (.file projectOutput) ∧
    run .late projectRun.disk (.stopped ⟨2025, 1, 2, 3, 4, 5, 0, none⟩) ["-v"] =
      projectRun := by
  have hrequest : request .late ["-v"] = .ok (.settings { verbose := true }) := by decide +kernel
  have hload : Config.load projectDisk (configPath [[], []]) = .ok projectConfig := by
    decide +kernel
  have hrun : projectRun.ending = .status 0 ∧ projectRun.disk.here = ["w"] ∧
      projectRun.disk.entries =
        (projectDisk.put ["w", "src", "dto.ts"] (.file projectOutput)).entries := by
    decide +kernel
  have hdisk : projectRun.disk = projectDisk.put ["w", "src", "dto.ts"] (.file projectOutput) :=
    Disk.ext hrun.2.2 hrun.2.1
  have hlocate : projectDisk.locate (target { verbose := true } projectConfig) =
      .ok ["w", "src", "dto.ts"] := by
    decide +kernel
  have hexpand : ∀ pattern ∈ projectConfig.patterns,
      Glob.expand (projectDisk.put ["w", "src", "dto.ts"] (.file projectOutput)) (Path.ofText ".")
        pattern = .ok [["w", "src", "Order.cs"]] := by
    decide +kernel
  refine ⟨hrun.1, hdisk,
    run_again (by decide +kernel) (by decide +kernel) (fun s hs => ?_) _⟩
  obtain rfl : _ = s := by simpa using hrequest.symm.trans hs
  refine ⟨by decide, fun c hc => ?_⟩
  obtain rfl := Except.ok.inj (hload.symm.trans hc.2)
  refine ⟨rfl, by decide +kernel, by decide +kernel, fun l hl => ?_⟩
  rw [show (run .late projectDisk _ _).disk = _ from hdisk] at hl ⊢
  obtain rfl := Except.ok.inj (hlocate.symm.trans hl)
  rintro ⟨pattern, hpattern, -, found, hfound, hmem⟩
  obtain rfl := Except.ok.inj ((hexpand pattern hpattern).symm.trans hfound)
  exact absurd hmem (by decide)

end CommandLine

end DtoInterfaces
