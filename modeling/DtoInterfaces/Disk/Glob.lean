import DtoInterfaces.Disk.Basic
import DtoInterfaces.Disk.Wildcard

namespace DtoInterfaces

inductive GlobFault where
  /-- Two stars beside other characters in one component. -/
  | starsInside
  | noComponent
  /-- Nothing is left but a slash at the end. -/
  | onlySlash
  deriving DecidableEq, Repr

def GlobFault.message : GlobFault → Text
  | .starsInside => "Invalid pattern: '**' can only be an entire path component"
  | .noComponent => "tuple index out of range"
  | .onlySlash => "'_TerminatingSelector' object has no attribute 'select_from'"

namespace Glob

inductive Component where
  | below
  | wild (pieces : List Wildcard.Piece)
  | name (n : RawText)
  deriving DecidableEq, Repr

def hasTwoStars : RawText → Bool
  | .char '*' :: .char '*' :: _ => true
  | _ :: rest => hasTwoStars rest
  | [] => false

def Component.ofText (t : RawText) : Except GlobFault Component :=
  if t = "**" then .ok .below
  else if hasTwoStars t then .error .starsInside
  else if t.any fun c => c == .char '*' || c == .char '?' || c == .char '[' then
    .ok (.wild (Wildcard.ofText t))
  else .ok (.name t)

/-- What one component selects, seen from each of the directories; files only with `filesToo`. A
location that can be reached from two of them is selected once. -/
def Component.select (d : Disk) (filesToo : Bool) (directories : List Location) :
    Component → List Location
  | .below => d.directoriesBelow directories
  | .wild pieces =>
    (d.children directories).filterMap fun (l, e) =>
      if Wildcard.accepts pieces (l.getLast?.getD []) && (filesToo || e == .directory) then some l
      else none
  | .name n =>
    Text.distinct ((directories.map (·.step n)).filter fun l =>
      (d.get? l).any fun e => filesToo || e == .directory)

/-- What components select one after the other, seen from directories. All but the last must name
directories, and the last too when `onlyDirectories` is set. -/
def select (d : Disk) (onlyDirectories : Bool) : List Component → List Location → List Location
  | [], found => found
  | component :: rest, directories =>
    select d onlyDirectories rest
      (component.select d (rest.isEmpty && !onlyDirectories) directories)

/-- A pattern that begins with a slash is seen from the root directory. -/
def expandAbsolute (d : Disk) (p : Path) : Except GlobFault (List Location) :=
  if p.parts.isEmpty then .ok []
  else do return select d false (← p.parts.mapM Component.ofText) [[]]

/-- Any other pattern is seen from the base directory; with a slash at its end it selects
directories alone. -/
def expandRelative (d : Disk) (base : Path) (pattern : RawText) :
    Except GlobFault (List Location) :=
  let parts := (Path.ofText pattern).parts
  let onlyDirectories := pattern.getLast? == some (.char '/')
  if parts.isEmpty then .error (if onlyDirectories then .onlySlash else .noComponent)
  else do
    let components ← parts.mapM Component.ofText
    match d.locate base with
    | .ok l =>
      return if d.get? l == some .directory then select d onlyDirectories components [l] else []
    | .error _ => return []

/-- A pattern with slashes for its backslashes. -/
def slashed (pattern : RawText) : RawText :=
  pattern.map fun c => if c == .char '\\' then .char '/' else c

/-- What one pattern selects. Backslashes in it are slashes. -/
def expand (d : Disk) (base : Path) (pattern : RawText) : Except GlobFault (List Location) :=
  let pattern := slashed pattern
  let p := Path.ofText pattern
  if p.isAbsolute then expandAbsolute d p else expandRelative d base pattern

end Glob

namespace Disk

def isFileAt (d : Disk) (l : Location) : Bool :=
  match d.get? l with
  | some (.file _) => true
  | _ => false

/-- The files that any of the patterns selects, each once, in the order of their locations by
components. Empty patterns select nothing. -/
def scan (d : Disk) (base : Path) (patterns : List RawText) : Except GlobFault (List Location) := do
  let found ← (patterns.filter fun pattern => !pattern.isEmpty).mapM (Glob.expand d base)
  return (Text.distinct (found.flatten.filter d.isFileAt)).mergeSort fun a b => !decide (b < a)

end Disk

end DtoInterfaces
