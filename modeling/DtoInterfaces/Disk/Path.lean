import DtoInterfaces.Text.Basic

namespace DtoInterfaces

/-- `root` is the slashes a path begins with: none, one, or exactly two. -/
structure Path where
  root : RawText
  parts : List RawText
  deriving DecidableEq, Repr

namespace Path

def ofText (t : RawText) : Path where
  root :=
    let slashes := t.takeWhile (· == .char '/')
    if slashes.length = 2 then slashes else slashes.take 1
  parts := (t.splitOn (.char '/')).filter fun part => part != [] && part != "."

/-- The empty path is written as a point. -/
def toText (p : Path) : RawText :=
  match p.root ++ Text.join "/" p.parts with
  | [] => "."
  | t => t

def isAbsolute (p : Path) : Bool := !p.root.isEmpty

/-- The last component, if there is one. -/
def name (p : Path) : RawText := p.parts.getLast?.getD []

/-- The path without its last component. -/
def parent (p : Path) : Path := { p with parts := p.parts.dropLast }

end Path

/-- The names that lead from the root directory to a file or directory. -/
abbrev Location := List RawText

namespace Location

/-- Steps to the entry of a name, or with `..` to the directory above. The root directory is
above itself. -/
def step (l : Location) (name : RawText) : Location :=
  if name = ".." then l.dropLast else l ++ [name]

/-- The absolute path to a location. -/
def path (l : Location) : Path := ⟨"/", l⟩

end Location

end DtoInterfaces
