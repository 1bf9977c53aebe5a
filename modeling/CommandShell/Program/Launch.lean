import CommandShell.Program.Image
import CommandShell.Program.Status
import CommandShell.World.Surroundings
/-! Starting a program: what it is given, and what it can do. -/
namespace CommandShell

abbrev Environment := List (Bytes × Bytes)

namespace Environment

/-- The string in which a variable is handed to a process. -/
def string (v : Bytes × Bytes) : Bytes := v.1 ++ 0x3D :: v.2

/-- The variable that a process takes a string for. The first sign of equality ends the name, unless
the name starts with it. -/
def ofString? : Bytes → Option (Bytes × Bytes)
  | [] => none
  | b :: bs =>
    match bs.dropWhile (· != 0x3D) with
    | [] => none
    | _ :: value => some (b :: bs.takeWhile (· != 0x3D), value)

def ofStrings (strings : List Bytes) : Environment := strings.filterMap ofString?

/-- The value of a variable; of several values, the first. -/
def get? (env : Environment) (name : String) : Option Bytes :=
  env.lookup (Utf8.encode name.toList)

/-- Whether there is a terminal that shows colours, as far as the variables tell. -/
def hasColors (env : Environment) : Bool :=
  (env.get? "TERM").any (· != Utf8.encode "dumb".toList) && (env.get? "NO_COLOR").isNone

def insert (name value : Bytes) : Environment → Environment
  | [] => [(name, value)]
  | (n, v) :: rest =>
    if name < n then (name, value) :: (n, v) :: rest
    else if name = n then (name, value) :: rest
    else (n, v) :: insert name value rest

/-- Variables one after another; later ones win. -/
def extend (env : Environment) (vars : List (Bytes × Bytes)) : Environment :=
  vars.foldl (fun e v => e.insert v.1 v.2) env

end Environment

structure Launch where
  program : Text
  name : Text
  arguments : List Text
  vars : List (Text × Text)
  directory : Text
  output : Option OpenFile
  errors : Option OpenFile
  deriving DecidableEq

/-- A program that was started: where it stands, what it knows and where it writes. A missing file
stands for the stream of the process that started it. -/
structure Process where
  arguments : List Bytes
  environment : Environment
  directory : Place
  input : Intake
  output : Option OpenFile
  errors : Option OpenFile
  /-- The files that others have open for writing. -/
  busy : List Nat
  deriving DecidableEq

/-- What a program leaves behind: the input that it did not read, how it ended unless that is unknown,
and the signals that it sent to the process that started it. -/
structure Finished where
  surroundings : Surroundings
  input : Intake
  ending : Except Fault WaitStatus
  signals : List Nat := []

abbrev Runner := Process → Surroundings → Finished

namespace Launch

def strings (l : Launch) : List Text :=
  l.name :: l.directory :: l.arguments ++ l.vars.flatMap fun (n, v) => [n, v]

/-- The program that a request starts in a process with such variables, standing at `cwd`. -/
def start (l : Launch) (d : Disk) (cwd : Place) (writing : List Nat) (inherited : Environment)
    (input : Intake) : Except Fault Process :=
  if l.strings.any ('\x00' ∈ ·) then .error .nulInData
  else match d.enter cwd l.directory with
    | .error f => .error f
    | .ok place =>
      let environment := Environment.extend []
        (inherited ++ l.vars.map fun (n, v) => (Utf8.encode n, Utf8.encode v))
      if l.arguments.any (argumentLimit ≤ byteLength ·) ||
          environment.any (fun (n, v) => argumentLimit ≤ n.length + v.length + 1) then
        .error (.system .argumentsTooLong)
      else match d.execute place writing interpreterDepth (Utf8.encode l.program)
          ((l.name :: l.arguments).map Utf8.encode) with
        | .error f => .error f
        | .ok arguments =>
          .ok { arguments, environment, directory := place, input,
                output := l.output, errors := l.errors, busy := [] }

end Launch
end CommandShell
