import DtoInterfaces.CommandLine.Token

namespace DtoInterfaces.CommandLine

/-- How joined switches and the text attached to a switch are read. In the late dialect an equals
sign keeps a value apart from joined switches as well, and nothing behind it is a switch; a letter
that is none leaves over what begins with it; and `--` may be a value. -/
inductive Dialect where
  | early
  | late
  deriving DecidableEq, Repr

/-- What the arguments ask for. An empty text stands for a path that is not given. -/
structure Settings where
  positional : RawText := []
  config : RawText := []
  output : RawText := []
  toStdout : Bool := false
  verbose : Bool := false
  deriving DecidableEq, Repr

inductive Request where
  | settings (s : Settings)
  | help
  deriving DecidableEq, Repr

/-- What comes at the end of joined switches. -/
inductive GroupEnd where
  | nothing
  | wanting (switch : Switch)
  | valued (switch : Switch) (value : RawText)
  | leftOver (t : RawText)
  deriving DecidableEq, Repr

/-- Switches that are set, and what comes at their end. -/
structure Group where
  flags : List Switch
  last : GroupEnd
  deriving DecidableEq, Repr

/-- A switch by itself. -/
def Group.single (s : Switch) : Group := if s.takesValue then ⟨[], .wanting s⟩ else ⟨[s], .nothing⟩

/-- A switch with text attached. To one without a value, in its short spelling, further switches
may be joined. -/
def Group.attached (dialect : Dialect) (s : Switch) (isShort behindEquals : Bool) :
    RawText → Except UsageFault Group
  | [] => if s.takesValue then .ok ⟨[], .valued s []⟩ else .error (.valueIgnored s [])
  | c :: rest =>
    if s.takesValue then .ok ⟨[], .valued s (c :: rest)⟩
    else if !isShort || dialect = .late && (behindEquals || c = .char '-') then
      .error (.valueIgnored s (c :: rest))
    else
      match c.char?.bind Switch.short?, dialect with
      | none, .early => .error (.valueIgnored s (c :: rest))
      | none, .late => .ok ⟨[s], .leftOver (.char '-' :: c :: rest)⟩
      | some next, _ => do
        let group ←
          match dialect, rest with
          | _, [] => .ok (single next)
          | .late, .char '=' :: value => attached dialect next true true value
          | _, rest => attached dialect next true false rest
        return { group with flags := s :: group.flags }

def Settings.set (s : Settings) : Switch → Settings
  | .stdout => { s with toStdout := true }
  | .verbose => { s with verbose := true }
  | _ => s

/-- In the early dialect a value that is `--` counts as empty. -/
def Settings.assign (dialect : Dialect) (s : Settings) (switch : Switch) (value : RawText) :
    Settings :=
  let value := if dialect = .early ∧ value = "--" then [] else value
  match switch with
  | .config => { s with config := value }
  | .output => { s with output := value }
  | _ => s

/-- How far the arguments have been taken. -/
structure Progress where
  settings : Settings := {}
  positionalTaken : Bool := false
  extras : List RawText := []

namespace Progress

def leave (p : Progress) (t : RawText) : Progress := { p with extras := p.extras ++ [t] }

/-- The first value is the positional argument, the others are left over. -/
def take (p : Progress) (t : RawText) : Progress :=
  if p.positionalTaken then p.leave t
  else { p with settings := { p.settings with positional := t }, positionalTaken := true }

/-- The separator belongs to the positional argument next to it, or else is left over. -/
def separate (p : Progress) : Progress :=
  if p.positionalTaken then p.leave "--" else { p with positionalTaken := true }

def setFlags (p : Progress) (flags : List Switch) : Progress :=
  { p with settings := flags.foldl Settings.set p.settings }

def assign (dialect : Dialect) (p : Progress) (switch : Switch) (value : RawText) : Progress :=
  { p with settings := p.settings.assign dialect switch value }

def finish (p : Progress) : Except UsageFault Request :=
  if p.extras.isEmpty then .ok (.settings p.settings) else .error (.unrecognized p.extras)

/-- Takes the tokens from left to right, for flags and a switch that still wants its value if
there is one. Asking for help ends it at once. -/
def takeAll (dialect : Dialect) (p : Progress) :
    Option (List Switch × Switch) → List Token → Except UsageFault Request
  | some (flags, switch), .value t :: rest =>
    if flags.contains .help then .ok .help
    else ((p.setFlags flags).assign dialect switch t).takeAll dialect none rest
  | some (_, switch), _ => .error (.valueMissing switch)
  | none, [] => p.finish
  | none, .unknown t :: rest => (p.leave t).takeAll dialect none rest
  | none, .switch s isShort attached :: rest => do
    let group ←
      match attached with
      | none => .ok (Group.single s)
      | some a => Group.attached dialect s isShort a.behindEquals a.text
    match group with
    | ⟨flags, .wanting switch⟩ => p.takeAll dialect (some (flags, switch)) rest
    | ⟨flags, last⟩ =>
      if flags.contains .help then .ok .help
      else
        let p := p.setFlags flags
        match last with
        | .valued switch t => (p.assign dialect switch t).takeAll dialect none rest
        | .leftOver t => (p.leave t).takeAll dialect none rest
        | _ => p.takeAll dialect none rest
  | none, .value t :: .separator :: rest =>
    if p.positionalTaken then ((p.leave t).leave "--").takeAll dialect none rest
    else (p.take t).takeAll dialect none rest
  | none, .value t :: rest => (p.take t).takeAll dialect none rest
  | none, .separator :: .value t :: rest =>
    if p.positionalTaken then ((p.leave "--").leave t).takeAll dialect none rest
    else (p.take t).takeAll dialect none rest
  | none, .separator :: rest => p.separate.takeAll dialect none rest
termination_by _ tokens => tokens.length

end Progress

def request (dialect : Dialect) (arguments : List RawText) : Except UsageFault Request := do
  ({} : Progress).takeAll dialect none (← tokens arguments)

end DtoInterfaces.CommandLine
