import CommandShell.Session.Lookup
/-! The commands that the shell runs itself. -/
namespace CommandShell

inductive Builtin where
  | exit
  | echo
  | type
  | pwd
  | cd
  deriving DecidableEq

namespace Builtin

def all : List Builtin := [exit, echo, type, pwd, cd]

def name : Builtin → Text
  | exit => "exit"
  | echo => "echo"
  | type => "type"
  | pwd => "pwd"
  | cd => "cd"

def ofName? (n : Text) : Option Builtin := all.find? (·.name == n)

theorem ofName?_name (b : Builtin) : ofName? b.name = some b := by cases b <;> decide

end Builtin

/-- A status, unless the command failed. -/
abbrev Outcome := Except Failure Int

namespace Shell

/-- Texts that a command writes. A failed write is the failure of the command. -/
def say (b : Builtin) (out : Outlet) (texts : List Text) (sh : Shell) : Shell × Outcome :=
  let (world, fault) := World.print out texts sh.world
  ({ sh with world },
    match fault with
    | none => .ok 0
    | some cause => .error (.output b.name cause))

def exit (sh : Shell) : Shell × Outcome :=
  ({ sh with session := { sh.session with exiting := true } }, .ok 0)

def echo (args : List Text) (out : Outlet) (sh : Shell) : Shell × Outcome :=
  sh.say .echo out [Text.join " " args, "\n"]

def pwd (out : Outlet) (sh : Shell) : Shell × Outcome :=
  sh.say .pwd out [sh.session.currentDir, "\n"]

inductive Meaning where
  | builtin (b : Builtin)
  | program (path : Text)
  | nothing
  deriving DecidableEq

def meaning (sh : Shell) (name : Text) : Meaning :=
  match Builtin.ofName? name with
  | some b => .builtin b
  | none =>
    match sh.resolve? name with
    | some path => .program path
    | none => .nothing

/-- The line about a name, in the pieces in which it is written. -/
def Meaning.texts (name : Text) : Meaning → List Text
  | .builtin _ => [name, " is a shell builtin\n"]
  | .program path => [name, " is ", path, "\n"]
  | .nothing => [name, ": not found\n"]

/-- The lines about all names, up to the first that cannot be written. -/
def typeEach (out : Outlet) : List Text → Int → Shell → Shell × Outcome
  | [], code, sh => (sh, .ok code)
  | name :: names, code, sh =>
    match sh.say .type out ((sh.meaning name).texts name) with
    | (sh', .error f) => (sh', .error f)
    | (sh', .ok _) => typeEach out names (if sh.meaning name = .nothing then 1 else code) sh'

def typeNames (names : List Text) (out : Outlet) (sh : Shell) : Shell × Outcome :=
  if names.isEmpty then (sh, .error (.missingOperand Builtin.type.name))
  else typeEach out names 0 sh

/-- The path that an argument of `cd` means. A leading `~` needs a home. -/
def target? (s : Session) : Text → Option Text
  | ['~'] => s.home?
  | '~' :: '/' :: rest => s.home?.map (Path.join · rest)
  | arg => some (if Path.isAbsolute arg then arg else Path.join s.currentDir arg)

/-- The session and the process move together or not at all. -/
def enter (arg target : Text) (sh : Shell) : Shell × Outcome :=
  if sh.world.disk.isDirectory sh.world.cwd target then
    match sh.world.disk.enter sh.world.cwd target with
    | .error cause => (sh.note (.notEntered target cause), .error (.noSuchDirectory arg))
    | .ok cwd =>
      ({ session := { sh.session with currentDir := target }, world := { sh.world with cwd } }, .ok 0)
  else (sh, .error (.noSuchDirectory arg))

/-- Changes to the directory that the first argument names, taken as text: a `..` takes back the
name before it, whatever that is. Without arguments nothing changes. -/
def cd (args : List Text) (sh : Shell) : Shell × Outcome :=
  match args with
  | [] => (sh, .ok 0)
  | arg :: _ =>
    match target? sh.session arg with
    | none => (sh, .error (.noSuchDirectory arg))
    | some path => sh.enter arg (Path.normalize path)

def runBuiltin (b : Builtin) (args : List Text) (out : Outlet) (sh : Shell) : Shell × Outcome :=
  match b with
  | .exit => sh.exit
  | .echo => sh.echo args out
  | .type => sh.typeNames args out
  | .pwd => sh.pwd out
  | .cd => sh.cd args

end Shell
end CommandShell
