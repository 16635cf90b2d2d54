import DtoInterfaces.Session.Basic

namespace DtoInterfaces.Session

inductive Step where
  | scan
  | parse (sources : List (RawText × Text))
  | generate (classes : List ClassDecl)
  | transpileFile (path : RawText)
  | transpile
  | write (content output : RawText)
  | read (paths : List RawText)
  | clear
  | print
  | diagnostics
  deriving DecidableEq, Repr

inductive Answer where
  | done
  | path (p : Path)
  | paths (ps : List Path)
  | classes (cs : List ClassDecl)
  | text (t : Option RawText)
  | sources (files : List SourceFile)
  | diagnostics (ds : List Diagnostic)
  deriving DecidableEq, Repr

/-- The lines of an outcome are for the standard output; `listing` is for the standard error. -/
structure Reply where
  outcome : Outcome Answer
  listing : RawText := []

def perform (s : Setup) (σ : Session) : Step → Reply
  | .scan => ⟨(scan s σ).map .paths, []⟩
  | .parse sources => ⟨(parse s σ sources).map .classes, []⟩
  | .generate classes => ⟨(generate s σ classes).map fun t => .text (some t), []⟩
  | .transpileFile path => ⟨(transpileFile s σ path).map .text, []⟩
  | .transpile => ⟨(transpile s σ).map fun t => .text (some t), []⟩
  | .write content output => ⟨(write s σ content output).map .path, []⟩
  | .read paths => ⟨(read σ paths).map .sources, []⟩
  | .clear => ⟨⟨.ok .done, [], { σ with collector := σ.collector.clear }⟩, []⟩
  | .print => ⟨⟨.ok .done, [], σ⟩, σ.collector.listing⟩
  | .diagnostics => ⟨⟨.ok (.diagnostics σ.collector.entries), [], σ⟩, []⟩

/-- The replies to a list of steps, each performed on the session after the one before. -/
def run (s : Setup) (σ : Session) : List Step → List Reply
  | [] => []
  | step :: rest =>
    let reply := perform s σ step
    reply :: run s reply.outcome.session rest

end DtoInterfaces.Session
