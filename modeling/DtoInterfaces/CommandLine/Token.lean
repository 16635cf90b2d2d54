import DtoInterfaces.Text.CharClass
import DtoInterfaces.Text.Quoted

namespace DtoInterfaces.CommandLine

inductive Switch where
  | help
  | config
  | output
  | stdout
  | verbose
  deriving DecidableEq, Repr

namespace Switch

def takesValue : Switch → Bool
  | .config | .output => true
  | .help | .stdout | .verbose => false

/-- The spellings of a switch in messages. -/
def name : Switch → Text
  | .help => "-h/--help"
  | .config => "--config"
  | .output => "-o/--output"
  | .stdout => "--stdout"
  | .verbose => "-v/--verbose"

def short? (c : Char) : Option Switch :=
  [('h', help), ('o', output), ('v', verbose)].lookup c

def long : List (Text × Switch) :=
  [("--help", help), ("--config", config), ("--output", output), ("--stdout", stdout),
   ("--verbose", verbose)]

end Switch

inductive UsageFault where
  | ambiguous (argument : RawText) (candidates : List Text)
  | valueMissing (switch : Switch)
  | valueIgnored (switch : Switch) (value : RawText)
  | unrecognized (arguments : List RawText)
  | configTwice
  deriving DecidableEq, Repr

def UsageFault.message : UsageFault → RawText
  | .ambiguous argument candidates =>
    "ambiguous option: " ++ argument ++ " could match " ++
      Text.join ", " (candidates.map Text.raw)
  | .valueMissing switch => "argument " ++ switch.name.raw ++ ": expected one argument"
  | .valueIgnored switch value =>
    "argument " ++ switch.name.raw ++ ": ignored explicit argument " ++ (Text.quoted value).raw
  | .unrecognized arguments => "unrecognized arguments: " ++ Text.join " " arguments
  | .configTwice => "config file given both positionally and with --config"

/-- Text in one argument with a switch, perhaps with an equals sign between. -/
structure Attached where
  behindEquals : Bool
  text : RawText
  deriving DecidableEq, Repr

/-- One argument by itself. A switch may have text attached; `isShort` tells its spelling. -/
inductive Token where
  | value (t : RawText)
  | switch (s : Switch) (isShort : Bool) (attached : Option Attached)
  | unknown (t : RawText)
  | separator
  deriving DecidableEq, Repr

/-- What stands before the first equals sign, and what stands behind it if there is one. -/
def cutAtEquals (t : RawText) : RawText × Option Attached :=
  match t.dropWhile (· != .char '=') with
  | _ :: rest => (t.takeWhile (· != .char '='), some ⟨true, rest⟩)
  | [] => (t, none)

/-- A switch by one of its full spellings. -/
def exactSwitch? (t : RawText) : Option (Switch × Bool) :=
  match t with
  | [.char '-', .char c] => (Switch.short? c).map fun s => (s, true)
  | t => (Switch.long.find? fun (name, _) => name.raw == t).map fun (_, s) => (s, false)

def isDigit (c : CodePoint) : Bool := c.char?.any Text.isDecimalDigit

/-- Whether an argument is a negative number: digits, perhaps with a point before the last of
them. A line feed at its end does not count. -/
def isNegativeNumber : RawText → Bool
  | .char '-' :: t =>
    let t := if t.getLast? = some (.char '\n') then t.dropLast else t
    match t.dropWhile isDigit with
    | [] => !t.isEmpty
    | .char '.' :: rest => !rest.isEmpty && rest.all isDigit
    | _ => false
  | _ => false

/-- An argument that begins with a hyphen and is no full spelling of a switch. -/
def abbreviated (t : RawText) : Except UsageFault (Option Token) :=
  match t with
  | .char '-' :: .char '-' :: _ =>
    let (stem, attached) := cutAtEquals t
    match Switch.long.filter fun (name, _) => stem.isPrefixOf name.raw with
    | [] => .ok none
    | [(_, s)] => .ok (some (.switch s false attached))
    | several => .error (.ambiguous t (several.map Prod.fst))
  | .char '-' :: .char c :: rest =>
    .ok ((Switch.short? c).map fun s => .switch s true (some ⟨false, rest⟩))
  | _ => .ok none

/-- Negative numbers and arguments with a space in them are values, unless they are switches. -/
def token (t : RawText) : Except UsageFault Token :=
  if t.head? ≠ some (.char '-') || t = "-" then .ok (.value t)
  else
    match exactSwitch? t with
    | some (s, isShort) => .ok (.switch s isShort none)
    | none =>
      let (stem, attached) := cutAtEquals t
      match attached, exactSwitch? stem with
      | some attached, some (s, isShort) => .ok (.switch s isShort (some attached))
      | _, _ => do
        match ← abbreviated t with
        | some found => return found
        | none =>
          return if isNegativeNumber t || t.contains (.char ' ') then .value t else .unknown t

/-- All arguments. Behind the separator every one is a value. -/
def tokens : List RawText → Except UsageFault (List Token)
  | [] => .ok []
  | t :: rest =>
    if t = "--" then .ok (.separator :: rest.map .value)
    else do return (← token t) :: (← tokens rest)

end DtoInterfaces.CommandLine
