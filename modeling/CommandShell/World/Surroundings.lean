import CommandShell.Disk.OpenFile
import CommandShell.Output.Stream
/-! What a process shares with the programs it starts. -/
namespace CommandShell

/-- Where the bytes of a process's own stream go. -/
inductive Sink where
  | stream (s : Stream)
  | file (f : OpenFile)
  deriving DecidableEq

inductive Intake where
  | bytes (rest : Bytes)
  | file (f : OpenFile)
  | refusing (cause : Fault)
  deriving DecidableEq

namespace Intake

/-- The next bytes, up to so many. There are none at the end. -/
def read (d : Disk) (n : Nat) : Intake → Except Fault Bytes × Intake
  | bytes rest => (.ok (rest.take n), bytes (rest.drop n))
  | file f => (.ok (d.read f n).1, file (d.read f n).2)
  | refusing cause => (.error cause, refusing cause)

/-- How many bytes there are to read at present. -/
def length (d : Disk) : Intake → Nat
  | bytes rest => rest.length
  | file f =>
    match f.target with
    | .content serial => (d.content serial).length - f.offset
    | .device _ => 0
  | refusing _ => 0

end Intake

structure Surroundings where
  disk : Disk
  output : Sink
  errors : Sink
  deriving DecidableEq

namespace Surroundings

def writeFile (s : Surroundings) (f : OpenFile) (bs : Bytes) :
    Surroundings × OpenFile × Option Shortfall :=
  let (disk, f, fault) := s.disk.write f bs
  ({ s with disk }, f, fault.map (⟨0, ·⟩))

def writeOutput (s : Surroundings) (bs : Bytes) : Surroundings × Option Shortfall :=
  match s.output with
  | .stream t => ({ s with output := .stream (t.write bs).1 }, (t.write bs).2)
  | .file f =>
    let (s, f, short) := s.writeFile f bs
    ({ s with output := .file f }, short)

def writeErrors (s : Surroundings) (bs : Bytes) : Surroundings × Option Shortfall :=
  match s.errors with
  | .stream t => ({ s with errors := .stream (t.write bs).1 }, (t.write bs).2)
  | .file f =>
    let (s, f, short) := s.writeFile f bs
    ({ s with errors := .file f }, short)

def flushOutput (s : Surroundings) : Surroundings × Option Fault :=
  match s.output with
  | .stream t => ({ s with output := .stream t.flush.1 }, t.flush.2)
  | .file _ => (s, none)

def flushErrors (s : Surroundings) : Surroundings × Option Fault :=
  match s.errors with
  | .stream t => ({ s with errors := .stream t.flush.1 }, t.flush.2)
  | .file _ => (s, none)

end Surroundings
end CommandShell
