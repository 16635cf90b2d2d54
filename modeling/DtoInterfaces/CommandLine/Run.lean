import DtoInterfaces.CommandLine.Request
import DtoInterfaces.Config.File
import DtoInterfaces.Session.Basic

namespace DtoInterfaces.CommandLine

/-- How a run ends: with a status, with a status before anything was done, or with a failure that
it does not handle. -/
inductive Ending where
  | status (code : Nat)
  | stopped (code : Nat)
  | failed (failure : Failure)
  deriving DecidableEq, Repr

/-- The end of a run, what it printed and the disk after it. Both streams take any text. -/
structure Result where
  ending : Ending
  stdout : RawText := []
  stderr : RawText := []
  disk : Disk

def usage : RawText :=
  RawText.ofLines ["usage: cs2ts [-h] [--config PATH] [-o OUTPUT] [--stdout] [-v] [config]"]

def help : RawText :=
  usage ++ RawText.ofLines
    ["",
     "C# to TypeScript Transpiler",
     "",
     "positional arguments:",
     "  config                Config file (default: cs2ts.config.json), or 'init' to",
     "                        create one",
     "",
     "options:",
     "  -h, --help            show this help message and exit",
     "  --config PATH         Config file path, for generation and for init",
     "  -o OUTPUT, --output OUTPUT",
     "                        Output file (overrides config)",
     "  --stdout              Print to stdout instead of file",
     "  -v, --verbose         Print debug output"]

def usageError (d : Disk) (fault : UsageFault) : Result where
  ending := .stopped 2
  stderr := usage ++ RawText.ofLines ["cs2ts: error: " ++ fault.message]
  disk := d

/-- The first path that is given, or the default one. -/
def configPath (candidates : List RawText) : RawText :=
  (candidates.find? fun path => !path.isEmpty).getD Config.defaultFile

/-- Ends a run that failed: with a message and status 1 if the failure is one of those it
expects. -/
def fail (d : Disk) (printed : List RawText) (heading : RawText) (isExpected : Bool)
    (failure : Failure) : Result :=
  if isExpected then
    ⟨.status 1, RawText.ofLines printed, RawText.ofLines [heading ++ failure.message], d⟩
  else ⟨.failed failure, RawText.ofLines printed, [], d⟩

def isConfigFailure : Failure → Bool
  | .config _ => true
  | _ => false

def isEmptyRun : Failure → Bool
  | .noSources | .noClasses => true
  | _ => false

/-- Writes the default configuration. -/
def runInit (d : Disk) (s : Settings) : Result :=
  match Config.init d (configPath [s.config]) with
  | (.ok p, d) => ⟨.status 0, RawText.ofLines ["Written: " ++ p.toText], [], d⟩
  | (.error failure, d) => fail d [] "Error: " (isConfigFailure failure) failure

/-- Puts the interfaces where they are to go and reports on the run. -/
def deliver (setup : Setup) (s : Settings) (printed : List RawText) (σ : Session) (t : RawText) :
    Result :=
  if s.toStdout then
    ⟨.status 0, RawText.ofLines (printed ++ [t]), σ.collector.listing, σ.disk⟩
  else
    let written := Session.write setup σ t s.output
    let stdout := RawText.ofLines (printed ++ written.printed)
    match written.result with
    | .ok _ => ⟨.status 0, stdout, σ.collector.listing, written.session.disk⟩
    | .error failure => ⟨.failed failure, stdout, [], written.session.disk⟩

/-- Generates interfaces as a configuration says. -/
def runWith (d : Disk) (clock : Clock) (s : Settings) (path : RawText) (c : Config) : Result :=
  let loaded : RawText := "Loaded config: " ++ path
  let setup : Setup := ⟨c, Path.ofText ".", s.verbose⟩
  let made := Session.transpile setup ⟨d, { verbose := s.verbose }, clock⟩
  let printed := loaded :: made.printed
  match made.result with
  | .error failure => fail made.session.disk printed "Error: " (isEmptyRun failure) failure
  | .ok t => deliver setup s printed made.session t

def runGenerate (d : Disk) (clock : Clock) (s : Settings) : Result :=
  if !s.positional.isEmpty && !s.config.isEmpty then usageError d .configTwice
  else
    let path := configPath [s.config, s.positional]
    match Config.load d path with
    | .error failure => fail d [] "Failed to load config: " (isConfigFailure failure) failure
    | .ok c => runWith d clock s path c

def run (dialect : Dialect) (d : Disk) (clock : Clock) (arguments : List RawText) : Result :=
  match request dialect arguments with
  | .error fault => usageError d fault
  | .ok .help => ⟨.stopped 0, help, [], d⟩
  | .ok (.settings s) =>
    if s.positional = "init" then runInit d s else runGenerate d clock s

end DtoInterfaces.CommandLine
