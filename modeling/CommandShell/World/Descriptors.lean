import CommandShell.Disk.OpenFile
/-! The files that a process has open beside its own streams. -/
namespace CommandShell

abbrev Handle := Nat

inductive HandleEvent where
  | opened (h : Handle)
  | closed (h : Handle)
  deriving DecidableEq

structure Descriptors where
  table : List (Handle × OpenFile) := []
  /-- All that happened, latest first. -/
  history : List HandleEvent := []
  deriving DecidableEq

namespace Descriptors

/-- A handle above all in use, and above those of the three streams. -/
def fresh (d : Descriptors) : Handle := d.table.foldr (fun e n => max (e.1 + 1) n) 3

def get? (d : Descriptors) (h : Handle) : Option OpenFile := d.table.lookup h

def insert (d : Descriptors) (f : OpenFile) : Descriptors × Handle :=
  (⟨(d.fresh, f) :: d.table, .opened d.fresh :: d.history⟩, d.fresh)

/-- The file behind a handle has moved on. -/
def update (d : Descriptors) (h : Handle) (f : OpenFile) : Descriptors :=
  { d with table := d.table.map fun e => if e.1 = h then (h, f) else e }

def close (d : Descriptors) (h : Handle) : Descriptors :=
  ⟨d.table.filter (·.1 != h), .closed h :: d.history⟩

end Descriptors
end CommandShell
