import CommandShell.Path
import CommandShell.Fault.Basic
/-! A disk: a tree of names, and apart from it the contents of the files. -/
namespace CommandShell

/-- The names that lead to an entry, the last one first. The root has none. -/
abbrev Location := List Text

inductive Device where
  | null
  | full
  deriving DecidableEq

inductive Node where
  | directory
  | file
  | link (target : Text)
  | device (d : Device)
  /-- The installed command interpreter, a program that is no script. -/
  | interpreter
  deriving DecidableEq

/-- The serial number tells an entry from an earlier one of the same location, and its content from
that of other files. -/
structure Entry where
  serial : Nat
  mode : Nat
  node : Node
  deriving DecidableEq

inductive Right where
  | read
  | write
  | search
  deriving DecidableEq

def Right.bit : Right → Nat
  | read => 8
  | write => 7
  | search => 6

def fileMode : Nat := 0o644

/-- What new files permit before a mask is laid on it. -/
def openMode : Nat := 0o666

def directoryMode : Nat := 0o755

namespace Entry

def isDirectory (e : Entry) : Bool := e.node = .directory

def isRegular (e : Entry) : Bool := e.node = .file || e.node = .interpreter

/-- Anyone's permission to execute a file makes it executable. -/
def isExecutable (e : Entry) : Bool :=
  e.isRegular && (e.mode.testBit 6 || e.mode.testBit 3 || e.mode.testBit 0)

end Entry

structure Disk where
  entries : List (Location × Entry)
  /-- What is in the files, by serial number. Where nothing is, the file is empty. -/
  contents : List (Nat × Bytes)
  next : Nat
  serial_lt_next : ∀ p ∈ entries, p.2.serial < next
  deriving DecidableEq

/-- The permissions that new files lack unless something else is asked for. -/
def usualMask : Nat := 0o022

/-- Where a process stands: in a directory, which may have been removed meanwhile, as may those
above it. -/
structure Place where
  location : Location
  /-- The serial numbers of the directory and of those above it. -/
  serials : List Nat
  superuser : Bool
  mask : Nat := usualMask
  deriving DecidableEq

def Place.permits (p : Place) (e : Entry) (r : Right) : Bool := p.superuser || e.mode.testBit r.bit

namespace Disk

def bare : Disk where
  entries := [([], ⟨1, directoryMode, .directory⟩)]
  contents := []
  next := 2
  serial_lt_next := fun _ hp => List.mem_singleton.1 hp ▸ Nat.lt_succ_self 1

def lookup (d : Disk) (l : Location) : Option Entry := d.entries.lookup l

def content (d : Disk) (serial : Nat) : Bytes := (d.contents.lookup serial).getD []

/-- The serial numbers of an entry and of the directories above it. -/
def lineage (d : Disk) : Location → List Nat
  | [] => [((d.lookup []).map (·.serial)).getD 0]
  | n :: l => ((d.lookup (n :: l)).map (·.serial)).getD 0 :: lineage d l

/-- Whether the entry at a location is the one of these serial numbers. -/
def isAt (d : Disk) (l : Location) (serials : List Nat) : Bool :=
  (d.lookup l).any fun e => serials.head? == some e.serial

/-- Whether the place still is where it was. -/
def holds (d : Disk) (p : Place) : Bool := d.isAt p.location p.serials

def put (d : Disk) (l : Location) (mode : Nat) (node : Node) : Disk where
  entries := d.entries.filter (·.1 != l) ++ [(l, ⟨d.next, mode, node⟩)]
  contents := d.contents
  next := d.next + 1
  serial_lt_next := by
    intro p hp
    obtain hp | hp := List.mem_append.1 hp
    · exact Nat.lt_succ_of_lt (d.serial_lt_next p (List.mem_filter.1 hp).1)
    · simp_all

def remove (d : Disk) (l : Location) : Disk where
  entries := d.entries.filter fun p => !l.isSuffixOf p.1
  contents := d.contents
  next := d.next
  serial_lt_next := fun p hp => d.serial_lt_next p (List.mem_filter.1 hp).1

def refill (d : Disk) (serial : Nat) (content : Bytes) : Disk :=
  { d with contents := (serial, content) :: d.contents.filter (·.1 != serial) }

theorem content_refill_self (d : Disk) (n : Nat) (bs : Bytes) : (d.refill n bs).content n = bs := by
  simp [refill, content]

end Disk
end CommandShell
