import DtoInterfaces.CommandLine.Run
import Std.Time.DateTime

open DtoInterfaces

/-- The present time in UTC. -/
def currentTime : IO Timestamp := do
  let now ← Std.Time.Timestamp.now
  let seconds := now.toSecondsSinceUnixEpoch.val
  let date := Std.Time.PlainDate.ofEpochDay ⟨seconds / 86400⟩
  let time := (seconds % 86400).toNat
  let micros := (now.toNanosecondsSinceUnixEpoch.val / 1000 % 1000000).toNat
  return ⟨date.year.toInt.toNat, date.month.val.toNat, date.day.val.toNat, time / 3600,
    time / 60 % 60, time % 60, micros, some 0⟩

/-- Adds the listed entries to a disk until the input ends. -/
partial def readEntries (input : IO.FS.Stream) (d : Disk) : IO Disk := do
  let line ← input.getLine
  if line.isEmpty then return d
  let path := line.toList.filter (· != '\n')
  let l := (Path.ofText (Text.raw path)).parts
  if l.isEmpty then readEntries input d
  else if path.getLast? == some '/' then readEntries input (d.plant l .directory)
  else
    let octets ← IO.FS.readBinFile (String.ofList path)
    readEntries input (d.plant l (.file octets.toList))

def readDisk : IO Disk := do
  let input ← IO.getStdin
  let here := (← input.getLine).toList.filter (· != '\n')
  let here := (Path.ofText (Text.raw here)).parts
  readEntries input ((⟨[], here⟩ : Disk).plant here .directory)

/-- The name of a file for the system, which takes no surrogates here. -/
def systemName (t : RawText) : IO String :=
  match t.text? with
  | some t => return String.ofList t
  | none => throw (.userError (String.ofList (Text.shown t)))

/-- Carries out what changed from one disk to the next. -/
def writeDisk (before after : Disk) : IO Unit := do
  for (l, e) in after.entries.reverse do
    if before.get? l != some e then
      let path ← systemName l.path.toText
      match e with
      | .directory => IO.FS.createDirAll path
      | .file octets => IO.FS.writeBinFile path ⟨octets.toArray⟩

def main (arguments : List String) : IO UInt32 := do
  let before ← readDisk
  let arguments := arguments.map fun argument => Text.raw argument.toList
  let result := CommandLine.run .early before (.stopped (← currentTime)) arguments
  writeDisk before result.disk
  IO.print (String.ofList (Text.shown result.stdout))
  IO.eprint (String.ofList (Text.shown result.stderr))
  match result.ending with
  | .status code | .stopped code => return code.toUInt32
  | .failed failure =>
    IO.eprintln (String.ofList (Text.shown failure.message))
    return 1
