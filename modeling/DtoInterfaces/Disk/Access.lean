import DtoInterfaces.Disk.Basic

namespace DtoInterfaces

/-- A fault and the path that was asked for when it arose. -/
structure DiskError where
  fault : DiskFault
  path : Path
  deriving DecidableEq, Repr

/-- Why a text was not written, or not in full. -/
inductive WriteFault where
  | disk (error : DiskError)
  | unencodable (fault : Utf8.EncodeFault)
  deriving DecidableEq, Repr

/-- Why there is no text to read. -/
inductive ReadFault where
  | notFile (path : Path)
  | undecodable (fault : Utf8.Fault)
  deriving DecidableEq, Repr

namespace DiskFault

def message : DiskFault → Text
  | .missing => "[Errno 2] No such file or directory"
  | .present => "[Errno 17] File exists"
  | .notDirectory => "[Errno 20] Not a directory"
  | .isDirectory => "[Errno 21] Is a directory"
  | .nulCharacter => "embedded null byte"
  | .unencodable fault => fault.message

end DiskFault

/-- The path is shown if the disk was asked for it. -/
def DiskError.message (e : DiskError) : Text :=
  match e.fault with
  | .nulCharacter | .unencodable _ => e.fault.message
  | fault => fault.message ++ ": " ++ Text.quoted e.path.toText

def WriteFault.message : WriteFault → Text
  | .disk error => error.message
  | .unencodable fault => fault.message

def ReadFault.message : ReadFault → RawText
  | .notFile path => "File not found: " ++ path.toText
  | .undecodable fault => fault.message.raw

/-- Why the disk is not even asked for a path. -/
def Path.fault? (p : Path) : Option DiskFault :=
  match Utf8.nameFault? p.toText with
  | some fault => some (.unencodable fault)
  | none => if p.toText.contains (.char '\x00') then some .nulCharacter else none

namespace Disk

/-- The text of a file, with every line ended by a line feed alone. -/
def readText (d : Disk) (p : Path) : Except ReadFault Text :=
  match d.octets? p with
  | none => .error (.notFile p)
  | some octets =>
    match Utf8.decode octets with
    | .ok t => .ok (Text.unifyLineBreaks t)
    | .error fault => .error (.undecodable fault)

/-- Makes the directory that `p` leads to where nothing is yet, and gives its location. -/
def ensureDirectoryAt (d : Disk) (p : Path) (l : Location) : Except DiskError Location × Disk :=
  match d.get? l with
  | none => (.ok l, d.put l .directory)
  | some .directory => (.ok l, d)
  | some (.file _) => (.error ⟨.present, p⟩, d)

/-- Sees to it that a directory is there, and makes those above it first. -/
def ensureDirectory (d : Disk) (p : Path) : Except DiskError Location × Disk :=
  match p.fault? with
  | some fault => (.error ⟨fault, p⟩, d)
  | none =>
    match _h : d.locate p with
    | .ok l => d.ensureDirectoryAt p l
    | .error .missing =>
      match d.ensureDirectory p.parent with
      | (.error e, d) => (.error e, d)
      | (.ok l, d) => d.ensureDirectoryAt p (l.step p.name)
    | .error fault => (.error ⟨fault, p⟩, d)
termination_by p.parts.length
decreasing_by
  have hp : p.parts ≠ [] := fun hp => by simp [locate, hp, walk] at _h
  have := List.length_pos_iff.2 hp
  simp only [Path.parent, List.length_dropLast]
  omega

/-- Puts a file into a directory that is there. -/
def writeOctets (d : Disk) (p : Path) (octets : List UInt8) : Except DiskError Unit × Disk :=
  match p.fault? with
  | some fault => (.error ⟨fault, p⟩, d)
  | none =>
    match d.locate p with
    | .error fault => (.error ⟨fault, p⟩, d)
    | .ok l =>
      match d.get? l with
      | some .directory => (.error ⟨.isDirectory, p⟩, d)
      | _ => (.ok (), d.put l (.file octets))

/-- Writes a text as it is, and makes the directories above it first. The file is there, and empty,
before the text is encoded. -/
def writeText (d : Disk) (p : Path) (t : RawText) : Except WriteFault Unit × Disk :=
  let encoded := Utf8.encodeRaw t
  match d.ensureDirectory p.parent with
  | (.error e, d) => (.error (.disk e), d)
  | (.ok _, d) =>
    match d.writeOctets p (encoded.toOption.getD []) with
    | (.error e, d) => (.error (.disk e), d)
    | (.ok (), d) => ((encoded.map fun _ => ()).mapError .unencodable, d)

end Disk

end DtoInterfaces
