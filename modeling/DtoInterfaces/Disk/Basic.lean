import DtoInterfaces.Disk.Path
import DtoInterfaces.Text.Utf8

namespace DtoInterfaces

inductive Entry where
  | directory
  | file (octets : List UInt8)
  deriving DecidableEq, Repr

/-- `here` is the working directory. The root directory is always there and not listed. -/
structure Disk where
  entries : List (Location × Entry)
  here : Location

inductive DiskFault where
  | missing
  | present
  | notDirectory
  | isDirectory
  /-- The path holds a character that no name may hold. -/
  | nulCharacter
  | unencodable (fault : Utf8.EncodeFault)
  deriving DecidableEq, Repr

namespace Disk

def get? (d : Disk) : Location → Option Entry
  | [] => some .directory
  | l => d.entries.lookup l

/-- Puts an entry at a location, in place of what was there. -/
def put (d : Disk) (l : Location) (e : Entry) : Disk :=
  { d with entries := (l, e) :: d.entries.filter fun found => found.1 != l }

/-- Puts an entry and, where nothing is yet, the directories above it. -/
def plant (d : Disk) (l : Location) (e : Entry) : Disk :=
  let above := (List.range l.length).map fun n => l.take n
  (above.foldl (fun d k => if (d.get? k).isSome then d else d.put k .directory) d).put l e

/-- Where components lead from a location. Every step is taken from a directory; what stands at
the end is not asked. -/
def walk (d : Disk) (l : Location) : List RawText → Except DiskFault Location
  | [] => .ok l
  | part :: rest =>
    match d.get? l with
    | none => .error .missing
    | some (.file _) => .error .notDirectory
    | some .directory => d.walk (l.step part) rest

/-- Where a path leads. -/
def locate (d : Disk) (p : Path) : Except DiskFault Location :=
  d.walk (if p.isAbsolute then [] else d.here) p.parts

/-- What a path leads to. -/
def find? (d : Disk) (p : Path) : Option Entry :=
  match d.locate p with
  | .ok l => d.get? l
  | .error _ => none

def pathExists (d : Disk) (p : Path) : Bool := (d.find? p).isSome

def isDirectory (d : Disk) (p : Path) : Bool := d.find? p == some .directory

/-- The content of a file. -/
def octets? (d : Disk) (p : Path) : Option (List UInt8) :=
  match d.find? p with
  | some (.file octets) => some octets
  | _ => none

/-- What stands in any of the directories. -/
def children (d : Disk) (directories : List Location) : List (Location × Entry) :=
  d.entries.filter fun (l, _) => directories.contains l.dropLast

/-- Some directories and all directories below any of them. None is named twice when none was. -/
def directoriesBelow (d : Disk) (directories : List Location) : List Location :=
  directories ++ d.entries.filterMap fun (l, e) =>
    if e == .directory && directories.any (·.isPrefixOf l) && !directories.contains l then some l
    else none

theorem lookup_filter_ne {l k : Location} (h : k ≠ l) (entries : List (Location × Entry)) :
    (entries.filter fun found => found.1 != l).lookup k = entries.lookup k := by
  induction entries with
  | nil => rfl
  | cons e entries ih =>
    obtain ⟨a, b⟩ := e
    by_cases ha : a = l
    · subst ha
      have hk : (k == a) = false := by simpa using h
      simp [List.lookup_cons, hk, ih]
    · simp [ha, List.lookup_cons, ih]

/-- A disk holds what was put last, and elsewhere what it held before. -/
theorem get?_put (d : Disk) {l : Location} (hl : l ≠ []) (e : Entry) (k : Location) :
    (d.put l e).get? k = if k = l then some e else d.get? k := by
  cases k with
  | nil => simp [get?, Ne.symm hl]
  | cons a k =>
    by_cases h : a :: k = l
    · subst h
      simp [get?, put]
    · have hb : (a :: k == l) = false := by simpa using h
      simp only [get?, put, List.lookup_cons, hb, h, if_false]
      exact lookup_filter_ne h d.entries

end Disk

end DtoInterfaces
