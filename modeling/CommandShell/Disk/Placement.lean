import CommandShell.Disk.Walk
/-! Setting up a disk, and comparing two states of it. -/
namespace CommandShell

inductive Fixture where
  | directory
  | file (content : Bytes)
  /-- An executable script for the installed interpreter. -/
  | script (body : Bytes)
  | link (target : Text)
  | absence
  deriving DecidableEq

structure Placement where
  path : Text
  fixture : Option Fixture
  mode : Option Nat
  deriving DecidableEq

def scriptMode : Nat := 0o755

def linkMode : Nat := 0o777

def deviceMode : Nat := 0o666

def scriptContent (body : Bytes) : Bytes :=
  Utf8.encode "#!/bin/sh\n".toList ++ body ++ [0x0A]

namespace Disk

/-- A place for a user above all permissions. -/
def place (d : Disk) (l : Location) : Place :=
  { location := l, serials := d.lineage l, superuser := true }

/-- The directory that names lead to, one in another; those that are missing are made. -/
def provide : List Text → Location → Disk → Disk × Location
  | [], l, d => (d, l)
  | name :: names, l, d =>
    match d.find (d.place l) name with
    | .ok (k, _) => provide names k d
    | .error _ => provide names (name :: l) (d.put (name :: l) directoryMode .directory)

def putFile (d : Disk) (l : Location) (mode : Nat) (content : Bytes) : Disk :=
  (d.put l mode .file).refill d.next content

def setMode (d : Disk) (l : Location) (mode : Nat) : Disk where
  entries := d.entries.map fun p => (p.1, if p.1 = l then { p.2 with mode } else p.2)
  contents := d.contents
  next := d.next
  serial_lt_next := by
    intro p hp
    obtain ⟨q, hq, rfl⟩ := List.mem_map.1 hp
    have := d.serial_lt_next q hq
    dsimp only
    split <;> exact this

/-- A file with such content at a name in a directory, instead of one that is there already. -/
def placeFile (d : Disk) (parent : Location) (name : Text) (mode : Nat) (content : Bytes) : Disk :=
  match d.locate (d.place parent) .create name with
  | .ok (.entry l) =>
    match d.lookup l with
    | some e => (d.refill e.serial content).setMode l mode
    | none => d
  | .ok (.vacant l) => d.putFile l mode content
  | _ => d.putFile (name :: parent) mode content

/-- Puts something at a path seen from a directory, along with the directories it needs. -/
def arrange (base : Location) (d : Disk) (p : Placement) : Disk :=
  let names := (Path.segments p.path).filter fun n => n ≠ [] ∧ n ≠ ['.']
  let name := names.getLastD ['.']
  let (d, parent) := provide names.dropLast base d
  let d := match p.fixture with
    | none => d
    | some .directory => (provide [name] parent d).1
    | some (.file content) => d.placeFile parent name fileMode content
    | some (.script body) => d.placeFile parent name scriptMode (scriptContent body)
    | some (.link target) => d.put (name :: parent) linkMode (.link target)
    | some .absence => d.remove (name :: parent)
  match p.mode, d.find (d.place parent) name with
  | some mode, .ok (l, _) => d.setMode l mode
  | _, _ => d

def arrangeAll (base : Location) (d : Disk) (ps : List Placement) : Disk :=
  ps.foldl (arrange base) d

def fixture (d : Disk) (e : Entry) : Fixture :=
  match e.node with
  | .directory => .directory
  | .link target => .link target
  | _ => .file (d.content e.serial)

/-- All that is below a directory, by its path from there. -/
def below (d : Disk) (base : Location) : List (Text × Fixture) :=
  d.entries.filterMap fun (l, e) =>
    if base.isSuffixOf l ∧ l ≠ base then
      some (Text.join ['/'] (l.take (l.length - base.length)).reverse, d.fixture e)
    else none

/-- The paths at which two states differ, with what is there in the second. -/
def changes (base : Location) (before after : Disk) : List (Text × Fixture) :=
  let old := before.below base
  let new := after.below base
  (new.filter fun (p, n) => old.lookup p != some n) ++
    (old.filter fun (p, _) => (new.lookup p).isNone).map fun (p, _) => (p, .absence)

/-- A disk with the interpreter and the devices that programs expect. -/
def standard : Disk :=
  let put := fun (d : Disk) (path : List String) (mode : Nat) (node : Node) =>
    d.put ((path.map String.toList).reverse) mode node
  let d := put bare ["usr"] directoryMode .directory
  let d := put d ["usr", "bin"] directoryMode .directory
  let d := put d ["usr", "bin", "dash"] scriptMode .interpreter
  let d := put d ["usr", "bin", "sh"] linkMode (.link "dash")
  let d := put d ["bin"] linkMode (.link "usr/bin")
  let d := put d ["dev"] directoryMode .directory
  let d := put d ["dev", "null"] deviceMode (.device .null)
  let d := put d ["dev", "full"] deviceMode (.device .full)
  put d ["tmp"] directoryMode .directory

end Disk
end CommandShell
