import CommandShell.Disk.Walk
/-! Open files. Each has an offset of its own, also where two are of one file. -/
namespace CommandShell

inductive Target where
  | content (serial : Nat)
  | device (d : Device)
  deriving DecidableEq

inductive Access where
  | reading
  | writing
  | both
  deriving DecidableEq

structure OpenFile where
  target : Target
  offset : Nat
  /-- Whether all writes go to the end. -/
  append : Bool
  access : Access
  deriving DecidableEq

inductive Opening where
  | truncate
  | append
  | update
  | exchange
  deriving DecidableEq

def Opening.access : Opening → Access
  | exchange => .both
  | _ => .writing

/-- The file in which what is written ends up. -/
def OpenFile.written? (f : OpenFile) : Option Nat :=
  match f.access, f.target with
  | .reading, _ | _, .device _ => none
  | _, .content serial => some serial

/-- The content after `bs` is written at `offset`; a gap is filled with zeros. -/
def overwrite (content : Bytes) (offset : Nat) (bs : Bytes) : Bytes :=
  content.take offset ++ List.replicate (offset - content.length) 0 ++ bs ++
    content.drop (offset + bs.length)

namespace Disk

def reopen (d : Disk) (user : Place) (how : Opening) (e : Entry) : Except Fault (Disk × OpenFile) :=
  match e.node with
  | .directory => .error (.system .isDirectory)
  | .link _ => .error (.system .linkLoop)
  | .interpreter => .error (.system .fileBusy)
  | .device v =>
    if user.permits e .write then .ok (d, ⟨.device v, 0, how = .append, how.access⟩)
    else .error (.system .accessDenied)
  | .file =>
    if user.permits e .write && (how != .exchange || user.permits e .read) then
      .ok (if how = .truncate then d.refill e.serial [] else d,
        ⟨.content e.serial, 0, how = .append, how.access⟩)
    else .error (.system .accessDenied)

def create (d : Disk) (user : Place) (how : Opening) (l : Location) :
    Except Fault (Disk × OpenFile) :=
  match d.lookup l.tail with
  | none => .error (.system .noEntry)
  | some e =>
    if user.permits e .write then
      .ok ((d.put l (openMode &&& (0o777 ^^^ user.mask)) .file).refill d.next [],
        ⟨.content d.next, 0, how = .append, how.access⟩)
    else .error (.system .accessDenied)

/-- Opens for writing, and creates the file if there is none. -/
def openFile (d : Disk) (user : Place) (how : Opening) (path : Text) :
    Except Fault (Disk × OpenFile) :=
  match d.locate user .create path with
  | .error f => .error f
  | .ok (.removed ..) => .error (.system .isDirectory)
  | .ok (.vacant l) => d.create user how l
  | .ok (.entry l) =>
    match d.lookup l with
    | none => .error (.system .noEntry)
    | some e => d.reopen user how e

/-- Opens for reading. Only files have something to read. -/
def openToRead (d : Disk) (user : Place) (path : Text) : Except Fault OpenFile :=
  match d.find user path with
  | .error f => .error f
  | .ok (_, e) =>
    if user.permits e .read then
      .ok ⟨if e.node = .file then .content e.serial else .device .null, 0, false, .reading⟩
    else .error (.system .accessDenied)

def read (d : Disk) (f : OpenFile) (n : Nat) : Bytes × OpenFile :=
  match f.access, f.target with
  | .writing, _ | _, .device _ => ([], f)
  | _, .content serial =>
    let bs := ((d.content serial).drop f.offset).take n
    (bs, { f with offset := f.offset + bs.length })

/-- Writes at the offset, or at the end. -/
def write (d : Disk) (f : OpenFile) (bs : Bytes) : Disk × OpenFile × Option Fault :=
  if bs.isEmpty then (d, f, none)
  else match f.access, f.target with
    | .reading, _ => (d, f, some (.system .badDescriptor))
    | _, .device .null => (d, f, none)
    | _, .device .full => (d, f, some (.system .noSpace))
    | _, .content serial =>
      let content := d.content serial
      let offset := if f.append then content.length else f.offset
      (d.refill serial (overwrite content offset bs), { f with offset := offset + bs.length }, none)

end Disk
end CommandShell
