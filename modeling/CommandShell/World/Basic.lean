import CommandShell.Log.Record
import CommandShell.Program.Launch
import CommandShell.World.Descriptors
/-! The shell as a process: its surroundings, the directory it stands in, its open files and the
output it still holds back. -/
namespace CommandShell

/-- Where records go, and the time they bear. No file stands for the stream of errors. -/
structure Log where
  level : Level
  file : Option OpenFile
  stamp : Text
  colored : Bool
  deriving DecidableEq

structure World where
  surroundings : Surroundings
  input : Intake
  cwd : Place
  /-- Output written and not passed on yet. -/
  pending : Bytes
  descriptors : Descriptors
  environment : Environment
  log : Option Log
  /-- All records, latest first, whatever the log takes. -/
  noted : List Record
  signals : List Nat
  killedBy : Option Nat
  deriving DecidableEq

/-- Where a command writes: to the stream of the shell, or to a file that was opened for it. -/
inductive Outlet where
  | own
  | handle (h : Handle)
  deriving DecidableEq

/-- How much output is held back at most. -/
def bufferLimit : Nat := 1024

def badDescriptor : Fault := .system .badDescriptor

/-- Signals that the process ignores, and those that stop it or that nothing happens at. -/
def ignoredSignals : List Nat := [0, 13, 17, 18, 19, 20, 21, 22, 23, 28]

/-- Signals that tell of a faulty access to memory. One that was sent from outside is taken for such
a fault: from then on the next one is not looked into. -/
def faultSignals : List Nat := [7, 11]

namespace World

def disk (w : World) : Disk := w.surroundings.disk

/-- The serial numbers of the files that are open for writing. -/
def writing (w : World) : List Nat :=
  let files := w.descriptors.table.map (·.2) ++ (w.log.bind (·.file)).toList ++
    [w.surroundings.output, w.surroundings.errors].filterMap fun s =>
      match s with
      | .file f => some f
      | .stream _ => none
  files.filterMap (·.written?)

def receive (w : World) (signal : Nat) : World :=
  if w.killedBy.isSome || ignoredSignals.contains signal then w
  else if faultSignals.contains signal && !w.signals.contains signal then
    { w with signals := signal :: w.signals }
  else { w with killedBy := some signal }

def writeErrors (w : World) (bs : Bytes) : World × Option Fault :=
  let (surroundings, short) := w.surroundings.writeErrors bs
  ({ w with surroundings }, short.map (·.cause))

def writeHandle (w : World) (h : Handle) (bs : Bytes) : World × Option Fault :=
  match w.descriptors.get? h with
  | none => (w, some badDescriptor)
  | some f =>
    let (surroundings, f, short) := w.surroundings.writeFile f bs
    ({ w with surroundings, descriptors := w.descriptors.update h f }, short.map (·.cause))

/-- Passes on the output held back. What could not be written stays. -/
def release (w : World) : World × Option Fault :=
  match w.surroundings.writeOutput w.pending with
  | (surroundings, none) => ({ w with surroundings, pending := [] }, none)
  | (surroundings, some short) =>
    ({ w with surroundings, pending := w.pending.drop short.written }, some short.cause)

def passOn (w : World) (bs : Bytes) : World × Option Fault :=
  let (surroundings, short) := w.surroundings.writeOutput bs
  ({ w with surroundings }, short.map (·.cause))

/-- Holds back some more output, and passes on what there is no room for. -/
def hold (w : World) (bs : Bytes) : World × Option Fault :=
  match if bufferLimit < w.pending.length + bs.length then w.release else (w, none) with
  | (w, some cause) => (w, some cause)
  | (w, none) =>
    if bufferLimit ≤ bs.length then w.passOn bs
    else ({ w with pending := w.pending ++ bs }, none)

/-- The bytes up to the last newline, and those after it. -/
def splitLines (bs : Bytes) : Bytes × Bytes :=
  let tail := (bs.reverse.takeWhile (· != 0x0A)).reverse
  (bs.take (bs.length - tail.length), tail)

/-- Output leaves the shell in whole lines. A newline takes everything before it along, and a line
that could not leave is tried again before anything is added to it. -/
def writeOwn (w : World) (bs : Bytes) : World × Option Fault :=
  match splitLines bs with
  | ([], tail) =>
    match if w.pending.getLast? = some 0x0A then w.release else (w, none) with
    | (w, some cause) => (w, some cause)
    | (w, none) => w.hold tail
  | (lines, tail) =>
    match
      if w.pending.isEmpty then w.passOn lines
      else match w.hold lines with
        | (w, some cause) => (w, some cause)
        | (w, none) => w.release with
    | (w, some cause) => (w, some cause)
    | (w, none) => w.hold tail

def flush (w : World) : World × Option Fault :=
  match w.release with
  | (w, some cause) => (w, some cause)
  | (w, none) =>
    let (surroundings, cause) := w.surroundings.flushOutput
    ({ w with surroundings }, cause)

def write (w : World) (out : Outlet) (bs : Bytes) : World × Option Fault :=
  match out with
  | .own => w.writeOwn bs
  | .handle h => w.writeHandle h bs

/-- Texts one after another, up to the first that cannot be written. -/
def print (out : Outlet) : List Text → World → World × Option Fault
  | [], w => (w, none)
  | t :: ts, w =>
    match w.write out (Utf8.encode t) with
    | (w, some cause) => (w, some cause)
    | (w, none) => print out ts w

def flushOutlet (w : World) : Outlet → World × Option Fault
  | .own => w.flush
  | .handle _ => (w, none)

/-- What the log makes of a text. Its failures are ignored. -/
def writeLog (w : World) (l : Log) (bs : Bytes) : World :=
  match l.file with
  | none => (w.writeErrors bs).1
  | some f =>
    let (surroundings, f, _) := w.surroundings.writeFile f bs
    { w with surroundings, log := some { l with file := some f } }

def note (r : Record) (w : World) : World :=
  let w := { w with noted := r :: w.noted }
  match w.log with
  | none => w
  | some l =>
    if l.level.admits r.level then w.writeLog l (Utf8.encode (r.line l.stamp l.colored)) else w

/-- A message, written at once to the shell's errors or to a file. -/
def complain (w : World) (out : Outlet) (message : Text) : World × Option Fault :=
  match out with
  | .handle h => w.writeHandle h (Utf8.encode (message ++ "\n"))
  | .own =>
    match w.writeErrors (Utf8.encode (message ++ "\n")) with
    | (w, some cause) => (w, some cause)
    | (w, none) =>
      let (surroundings, cause) := w.surroundings.flushErrors
      ({ w with surroundings }, cause)

def report (out : Outlet) (message : Text) (w : World) : World :=
  match (w.note (.failed message)).complain out message with
  | (w, none) => w
  | (w, some _) => w.note (.notReported message)

def openFile (w : World) (how : Opening) (path : Text) : World × Except Fault Handle :=
  match w.disk.openFile w.cwd how path with
  | .error f => (w, .error f)
  | .ok (disk, f) =>
    let (descriptors, h) := w.descriptors.insert f
    ({ w with surroundings := { w.surroundings with disk }, descriptors }, .ok h)

def closeOutlet (out : Outlet) (w : World) : World :=
  match out with
  | .own => w
  | .handle h => { w with descriptors := w.descriptors.close h }

def outletFile (w : World) : Outlet → Option OpenFile
  | .own => none
  | .handle h => w.descriptors.get? h

end World
end CommandShell
