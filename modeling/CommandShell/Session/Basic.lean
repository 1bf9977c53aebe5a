import CommandShell.Fault.Failure
import CommandShell.World.Basic
/-! A session: its variables, its directory, and whether it was asked to end. -/
namespace CommandShell

/-- Each name is bound once. -/
abbrev Variables := List (Text × Text)

namespace Variables

def get? (vs : Variables) (name : Text) : Option Text := vs.lookup name

def unset (vs : Variables) (name : Text) : Variables := vs.filter (·.1 != name)

def set (vs : Variables) (name value : Text) : Variables := (name, value) :: vs.unset name

end Variables

structure Session where
  vars : Variables
  /-- The directory as the user named it. -/
  currentDir : Text
  exiting : Bool
  deriving DecidableEq

structure Shell where
  session : Session
  world : World
  deriving DecidableEq

namespace Session

def searchPath? (s : Session) : Option Text := s.vars.get? "PATH"

/-- An empty value is none. -/
def home? (s : Session) : Option Text :=
  (s.vars.get? "HOME").filter fun h => !h.isEmpty

/-- A session without variables, to which some are added one after another. -/
def fresh (currentDir : Text) (vars : List (Text × Text)) : Session where
  vars := vars.foldl (fun vs v => vs.set v.1 v.2) []
  currentDir := currentDir
  exiting := false

end Session

/-- The variables of a process whose names and values are text, and the names of the others. -/
def readableVariables : Environment → List (Text × Text) × List Text
  | [] => ([], [])
  | (n, v) :: rest =>
    let (kept, skipped) := readableVariables rest
    match Utf8.decode? n, Utf8.decode? v with
    | some name, some value => ((name, value) :: kept, skipped)
    | _, _ => (kept, Utf8.decode n :: skipped)

/-- A session that takes over the variables of its process. -/
def Session.inherit (currentDir : Text) (w : World) : Shell :=
  let (kept, skipped) := readableVariables w.environment
  ⟨.fresh currentDir kept, skipped.foldl (fun w n => w.note (.skippedVariable n)) w⟩

namespace Shell

def mapWorld (f : World → World) (sh : Shell) : Shell := { sh with world := f sh.world }

def note (r : Record) (sh : Shell) : Shell := sh.mapWorld (·.note r)

def report (out : Outlet) (f : Failure) (sh : Shell) : Shell := sh.mapWorld (·.report out f.message)

end Shell
end CommandShell
