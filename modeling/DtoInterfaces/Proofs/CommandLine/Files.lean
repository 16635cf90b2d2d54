import DtoInterfaces.CommandLine.Run
import DtoInterfaces.Proofs.Config.Initialization
import DtoInterfaces.Proofs.Session.Batch

namespace DtoInterfaces

open Disk Interface

namespace Session

variable {s : Setup} {σ : Session} {t : RawText}

theorem disk_transpileFiles (s : Setup) (σ : Session) (files : List SourceFile) :
    (transpileFiles s σ files).session.disk = σ.disk := by
  rw [transpileFiles_session]
  rfl

theorem disk_transpile (s : Setup) (σ : Session) : (transpile s σ).session.disk = σ.disk := by
  unfold transpile
  dsimp only
  split
  · rfl
  · rfl
  · split
    · rfl
    · exact disk_transpileFiles s σ _

theorem exists_declarations_of_transpile (h : (transpile s σ).result = .ok t) :
    ∃ cs, t = Text.join "\n\n" (declarations s.config.options σ.clock cs) := by
  unfold transpile at h
  dsimp only at h
  split at h
  · cases h
  · cases h
  · split at h
    · cases h
    · next files _ =>
      dsimp only at h
      rw [transpileFiles_result] at h
      split at h
      · cases h
      · exact ⟨classesOf files, (Except.ok.inj h).symm⟩

end Session

namespace CommandLine

/-- A run that was not carried out to its end, and left all files as they were. -/
structure Refuses (d : Disk) (r : Result) : Prop where
  code_eq : ∀ code, r.ending = .status code → code = 1
  sameFiles : SameFiles d r.disk

/-- Where a generation writes: the given path unless it is empty, else the configured one. -/
def target (s : Settings) (c : Config) : Path :=
  Path.ofText (if s.output.isEmpty then c.output else s.output)

/-- A generation by the configuration `c` comes to the text `t`. -/
structure Generates (d : Disk) (clock : Clock) (s : Settings) (c : Config) (t : RawText) :
    Prop where
  ne_init : s.positional ≠ "init"
  load_eq : Config.load d (configPath [s.config, s.positional]) = .ok c
  transpile_eq : (Session.transpile ⟨c, Path.ofText ".", s.verbose⟩
    ⟨d, { verbose := s.verbose }, clock⟩).result = .ok t

/-- The disk after a run that was carried out. -/
inductive Leaves (d : Disk) (clock : Clock) (s : Settings) (d' : Disk) : Prop
  | initial {l : Location} (hs : s.positional = "init")
      (h : Config.Initialized d (configPath [s.config]) l d')
  | printed {c : Config} {t : RawText} (h : Generates d clock s c t) (hout : s.toStdout)
      (hsame : SameFiles d d')
  | written {c : Config} {t : RawText} {octets : List UInt8} {l : Location}
      (h : Generates d clock s c t) (hout : s.toStdout = false)
      (ht : Utf8.encodeRaw (t ++ "\n") = .ok octets) (hw : Writes d (target s c) octets l d')

/-- A run that cannot encode its text, for a surrogate in the configured indentation. By then its
file is there, and empty. -/
inductive BreaksOff (d : Disk) (clock : Clock) (s : Settings) (r : Result) : Prop
  | emptied {c : Config} {t : RawText} {fault : Utf8.EncodeFault} {l : Location}
      (h : Generates d clock s c t) (hout : s.toStdout = false)
      (ht : Utf8.encodeRaw (t ++ "\n") = .error fault)
      (hindentation : ∃ n, .surrogate n ∈ c.options.indentation)
      (hending : r.ending = .failed (.write (.unencodable fault)))
      (hw : Writes d (target s c) [] l r.disk)

variable {d : Disk} {clock : Clock} {s : Settings} {c : Config} {t : RawText}

theorem Generates.exists_surrogate_mem (h : Generates d clock s c t) {fault : Utf8.EncodeFault}
    (ht : Utf8.encodeRaw (t ++ "\n") = .error fault) :
    ∃ n, .surrogate n ∈ c.options.indentation := by
  obtain ⟨n, hn⟩ := RawText.text?_eq_none_iff.1 (Utf8.text?_of_encodeRaw_eq_error ht)
  obtain ⟨cs, rfl⟩ := Session.exists_declarations_of_transpile h.transpile_eq
  refine ⟨n, surrogate_mem_of_mem_declarations ((List.mem_append.1 hn).resolve_right ?_)⟩
  exact Text.surrogate_notMem_raw

theorem refuses_fail {d' : Disk} (h : SameFiles d d') (printed : List RawText) (heading : RawText)
    (isExpected : Bool) (failure : Failure) :
    Refuses d (fail d' printed heading isExpected failure) := by
  unfold fail
  split
  · refine ⟨fun code hcode => ?_, h⟩
    cases hcode
    rfl
  · refine ⟨fun _ hcode => ?_, h⟩
    cases hcode

theorem refuses_usageError (d : Disk) (fault : UsageFault) : Refuses d (usageError d fault) := by
  refine ⟨fun _ hcode => ?_, .refl d⟩
  cases hcode

theorem runInit_leaves (htree : d.IsTree) (clock : Clock) (hs : s.positional = "init") :
    Refuses d (runInit d s) ∨
      (runInit d s).ending = .status 0 ∧ Leaves d clock s (runInit d s).disk := by
  unfold runInit
  cases hp : d.pathExists (Path.ofText (configPath [s.config])) with
  | true =>
    rw [Config.init_of_pathExists hp]
    exact .inl (refuses_fail (.refl d) _ _ _ _)
  | false =>
    rcases Config.init_of_absent htree hp with ⟨error, d', hinit, hsame⟩ | ⟨l, d', hinit, h⟩
    · rw [hinit]
      exact .inl (refuses_fail hsame _ _ _ _)
    · rw [hinit]
      exact .inr ⟨rfl, .initial hs h⟩

/-- Reading and emitting leave the disk as it is, so the only change is what is delivered. -/
theorem runWith_leaves {path : RawText} (hs : s.positional ≠ "init")
    (hc : Config.load d (configPath [s.config, s.positional]) = .ok c) :
    Refuses d (runWith d clock s path c) ∨
      (runWith d clock s path c).ending = .status 0 ∧
        Leaves d clock s (runWith d clock s path c).disk ∨
      BreaksOff d clock s (runWith d clock s path c) := by
  have hdisk := Session.disk_transpile ⟨c, Path.ofText ".", s.verbose⟩
    ⟨d, { verbose := s.verbose }, clock⟩
  unfold runWith
  dsimp only
  split
  · rw [hdisk]
    exact .inl (refuses_fail (.refl d) _ _ _ _)
  · next t ht =>
    have h : Generates d clock s c t := ⟨hs, hc, ht⟩
    unfold deliver
    dsimp only
    by_cases hout : s.toStdout
    · rw [if_pos hout]
      refine .inr (.inl ⟨rfl, .printed h hout ?_⟩)
      rw [hdisk]
      exact .refl d
    · rw [if_neg hout, Session.write, hdisk]
      have hwritten := attempts_writeText d (target s c) (t ++ "\n")
      rw [show Session.outputPath ⟨c, Path.ofText ".", s.verbose⟩ s.output = target s c from rfl]
      generalize d.writeText (target s c) (t ++ "\n") = outcome at hwritten
      rw [Bool.not_eq_true] at hout
      cases hwritten with
      | refused error hsame =>
        refine .inl ⟨fun _ hcode => ?_, hsame⟩
        cases hcode
      | written hencoded hw => exact .inr (.inl ⟨rfl, .written h hout hencoded hw⟩)
      | emptied hencoded hw =>
        exact .inr (.inr (.emptied h hout hencoded (h.exists_surrogate_mem hencoded) rfl hw))

theorem runGenerate_leaves (hs : s.positional ≠ "init") :
    Refuses d (runGenerate d clock s) ∨
      (runGenerate d clock s).ending = .status 0 ∧
        Leaves d clock s (runGenerate d clock s).disk ∨
      BreaksOff d clock s (runGenerate d clock s) := by
  unfold runGenerate
  split
  · exact .inl (refuses_usageError d _)
  · dsimp only
    split
    · exact .inl (refuses_fail (.refl d) _ _ _ _)
    · next c hc => exact runWith_leaves hs hc

/-- A run that does not end with status 0 leaves the files as they were, and any other status it
ends with is 1; but if it cannot encode the interfaces it leaves an empty file for them. A run that
ends with status 0 writes one file, the default configuration or the interfaces, or it prints the
interfaces and writes none. -/
theorem run_leaves (htree : d.IsTree) (dialect : Dialect) (clock : Clock)
    (arguments : List RawText) :
    Refuses d (run dialect d clock arguments) ∨
      ∃ s, request dialect arguments = .ok (.settings s) ∧
        ((run dialect d clock arguments).ending = .status 0 ∧
            Leaves d clock s (run dialect d clock arguments).disk ∨
          BreaksOff d clock s (run dialect d clock arguments)) := by
  unfold run
  split
  · exact .inl (refuses_usageError d _)
  · refine .inl ⟨fun _ hcode => ?_, .refl d⟩
    cases hcode
  · next s hrequest =>
    by_cases hs : s.positional = "init"
    · rw [if_pos hs]
      exact (runInit_leaves htree clock hs).imp_right fun h => ⟨s, hrequest, .inl h⟩
    · rw [if_neg hs]
      exact (runGenerate_leaves hs).imp_right fun h => ⟨s, hrequest, h⟩

def climbingArguments : List RawText := ["init", "--config", "a/../b.json"]

def climbingRun : Result :=
  run .late Config.oneFileDisk (.stopped ⟨2024, 1, 2, 3, 4, 5, 0, none⟩) climbingArguments

/-- The path leads nowhere when it is looked up, so the file that it leads to in the end is
replaced. -/
theorem run_leaves_climbing :
    Config.oneFileDisk.IsTree ∧ climbingRun.ending = .status 0 ∧
      Config.oneFileDisk.fileAt? ["b.json"] = some (Utf8.encode "\x7b\x7d") ∧
      climbingRun.disk.fileAt? ["b.json"] = some (Utf8.encode Config.default.fileText) := by
  have htree : Config.oneFileDisk.IsTree := by decide +kernel
  have hending : climbingRun.ending = .status 0 := by decide +kernel
  have hrequest : request .late climbingArguments =
      .ok (.settings { positional := "init", config := "a/../b.json" }) := by decide +kernel
  have hlocate : climbingRun.disk.locate (Path.ofText (configPath ["a/../b.json"])) =
      .ok ["b.json"] := by decide +kernel
  refine ⟨htree, hending, by decide +kernel, ?_⟩
  rcases run_leaves htree .late (.stopped ⟨2024, 1, 2, 3, 4, 5, 0, none⟩) climbingArguments with
    h | ⟨s, hs, h⟩
  · exact absurd (h.code_eq 0 hending) (by decide)
  obtain rfl : _ = s := by simpa using hrequest.symm.trans hs
  rcases h with ⟨-, h⟩ | h
  · cases h with
    | initial hinit h =>
      obtain rfl : _ = _ := Except.ok.inj (hlocate.symm.trans h.writes.locate_eq)
      exact h.writes.fileAt?_self
    | printed h => exact absurd rfl h.ne_init
    | written h => exact absurd rfl h.ne_init
  · cases h with
    | emptied h => exact absurd rfl h.ne_init

/-- An indentation that is half of a pair, and the interfaces of an earlier run. -/
def halfDisk : Disk where
  entries := [(["cs2ts.config.json"], .file (Utf8.encode
      ("\x7b\"input\": [\"*.cs\"], \"output\": \"dto.ts\", " ++
        "\"options\": \x7b\"addTimestamp\": false, \"indentation\": \"\\ud800\"\x7d\x7d"))),
    (["Tag.cs"], .file (Utf8.encode "public class Tag \x7b \x7d")),
    (["dto.ts"], .file (Utf8.encode "// From an earlier run."))]
  here := []

/-- The earlier interfaces are lost. -/
example :
    let r := run .late halfDisk (.stopped ⟨2024, 1, 2, 3, 4, 5, 0, none⟩) []
    r.ending = .failed (.write (.unencodable ⟨0, 23, 23⟩)) ∧
      r.disk.fileAt? ["dto.ts"] = some [] := by
  decide +kernel

end CommandLine

end DtoInterfaces
