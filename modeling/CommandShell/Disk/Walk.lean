import CommandShell.Disk.Basic
import CommandShell.Text.Utf8
/-! Where a path leads. Symbolic links are followed wherever they stand in the path, up to a limit,
and `..` leads to the parent of the directory that has been reached. -/
namespace CommandShell

inductive Reached where
  | entry (l : Location)
  /-- The directory is there and the name in it is free. -/
  | vacant (l : Location)
  /-- A directory that was at a location before it was removed. -/
  | removed (l : Location) (serials : List Nat)
  deriving DecidableEq

/-- A path to a new file may not end in a slash. -/
inductive Purpose where
  | inspect
  | create
  deriving DecidableEq

def linkLimit : Nat := 40

def nameLimit : Nat := 255

def pathLimit : Nat := 4096

def byteLength (t : Text) : Nat := (Utf8.encode t).length

namespace Disk
variable (d : Disk) (user : Place) (purpose : Purpose)

/-- The walk along the names between slashes. Where a link is met, `jump` takes over. -/
def advance (jump : Location → List Text → Except Errno Reached) :
    Location → List Text → Except Errno Reached
  | here, [] => .ok (.entry here)
  | here, name :: rest =>
    match d.lookup here with
    | none => .error .noEntry
    | some e =>
      if !e.isDirectory then .error .notDirectory
      else if name = [] then advance jump here rest
      else if !user.permits e .search then .error .accessDenied
      else if name = ['.'] then advance jump here rest
      else if name = ['.', '.'] then advance jump here.tail rest
      else if purpose = .create ∧ rest ≠ [] ∧ rest.all List.isEmpty then .error .isDirectory
      else if nameLimit < byteLength name then .error .nameTooLong
      else
        match d.lookup (name :: here) with
        | none => if rest = [] then .ok (.vacant (name :: here)) else .error .noEntry
        | some child =>
          match child.node with
          | .link target =>
            jump (if Path.isAbsolute target then [] else here) (Path.segments target ++ rest)
          | _ => advance jump (name :: here) rest

/-- The walk with so many links left to follow. -/
def walk : Nat → Location → List Text → Except Errno Reached
  | 0 => d.advance user purpose fun _ _ => .error .linkLoop
  | budget + 1 => d.advance user purpose (walk budget)

/-- The walk from a directory that was removed. It is empty, but has its old parent, which may have
been removed too. -/
def walkRemoved : Location → List Nat → List Text → Except Errno Reached
  | l, serials, [] => .ok (.removed l serials)
  | l, serials, name :: rest =>
    if name = [] ∨ name = ['.'] then walkRemoved l serials rest
    else if name = ['.', '.'] then
      if d.isAt l.tail serials.tail then d.walk user purpose linkLimit l.tail rest
      else walkRemoved l.tail serials.tail rest
    else if purpose = .create ∧ rest ≠ [] ∧ rest.all List.isEmpty then .error .isDirectory
    else .error .noEntry

/-- Where a path leads, seen from the place where a user stands. -/
def locate (path : Text) : Except Fault Reached :=
  if '\x00' ∈ path then .error .nulInPath
  else if path = [] then .error (.system .noEntry)
  else if pathLimit ≤ byteLength path then .error (.system .nameTooLong)
  else
    let steps := Path.segments path
    let reached :=
      if Path.isAbsolute path then d.walk user purpose linkLimit [] steps
      else if d.holds user then d.walk user purpose linkLimit user.location steps
      else d.walkRemoved user purpose user.location user.serials steps
    reached.mapError .system

def find (path : Text) : Except Fault (Location × Entry) :=
  match d.locate user .inspect path with
  | .error f => .error f
  | .ok (.removed l serials) => .ok (l, ⟨serials.headD 0, directoryMode, .directory⟩)
  | .ok (.vacant _) => .error (.system .noEntry)
  | .ok (.entry l) =>
    match d.lookup l with
    | none => .error (.system .noEntry)
    | some e => .ok (l, e)

/-- The entry that a raw path leads to. All names on a disk are text. -/
def status (path : Bytes) : Option Entry :=
  (Utf8.decode? path).bind fun t => (d.find user t).toOption.map (·.2)

def isDirectory (path : Text) : Bool :=
  match d.find user path with
  | .ok (_, e) => e.isDirectory
  | .error _ => false

def enter (path : Text) : Except Fault Place :=
  match d.locate user .inspect path with
  | .error f => .error f
  | .ok (.vacant _) => .error (.system .noEntry)
  | .ok (.removed l serials) => .ok { user with location := l, serials }
  | .ok (.entry l) =>
    match d.lookup l with
    | none => .error (.system .noEntry)
    | some e =>
      if !e.isDirectory then .error (.system .notDirectory)
      else if !user.permits e .search then .error (.system .accessDenied)
      else .ok { user with location := l, serials := d.lineage l }

end Disk
end CommandShell
