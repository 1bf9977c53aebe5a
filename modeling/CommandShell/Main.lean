import CommandShell.Disk.Placement
import CommandShell.Program
import CommandShell.Script.Interpreter
/-! The command line. The shell works on a disk of its own, which lasts as long as the run, and its
clock stands still. -/
namespace CommandShell

partial def readAll (input : IO.FS.Stream) (read : ByteArray) : IO ByteArray := do
  let block ← input.read 65536
  if block.isEmpty then return read
  readAll input (read ++ block)

/-- A process in a fresh directory for files that do not last. -/
def Program.initialWorld (input : Bytes) : World :=
  let place := Disk.standard.place ["tmp".toList]
  let binding := fun (name value : String) => (Utf8.encode name.toList, Utf8.encode value.toList)
  .fresh Disk.standard place [binding "HOME" "/tmp", binding "PATH" "/usr/bin:/bin"]
    (.bytes input)

def Sink.bytes : Sink → ByteArray
  | .stream s => ⟨s.received.toArray⟩
  | .file _ => .empty

end CommandShell

open CommandShell in
def main (args : List String) : IO UInt32 := do
  let input ← readAll (← IO.getStdin) .empty
  let arguments := args.map fun a => Utf8.encode a.toList
  let (world, status) := Program.run Script.runner "1970-01-01T00:00:00Z" arguments
    (Program.initialWorld input.toList)
  (← IO.getStdout).write world.surroundings.output.bytes
  (← IO.getStderr).write world.surroundings.errors.bytes
  return (UInt32.ofNat status.code.toNat)
