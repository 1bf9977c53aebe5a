import CommandShell.Session.Builtin
import CommandShell.Session.Targets
/-! Executing one line. -/
namespace CommandShell

def notFoundStatus : Int := 127

def failureStatus : Int := 1

/-- What errors that belong to no command start with. -/
def shellName : Text := "shell_repl"

namespace World

/-- Starts a program and waits for it. The files opened for it are closed here as soon as it has
them. -/
def launch (run : Runner) (l : Launch) (o : Outlets) (w : World) : World × Except Fault WaitStatus :=
  match l.start w.disk w.cwd w.writing w.environment w.input with
  | .error cause => (o.close w, .error cause)
  | .ok process =>
    let w := o.close w
    let finished := run { process with busy := w.writing } w.surroundings
    let w := { w with surroundings := finished.surroundings, input := finished.input }
    (finished.signals.foldl receive w, finished.ending)

end World

namespace Shell
variable (run : Runner)

def executeBuiltin (b : Builtin) (c : Command) (o : Outlets) (sh : Shell) : Shell × Int :=
  let (sh, outcome) := sh.runBuiltin b c.arguments o.output
  let (sh, code) := match outcome with
    | .ok code => (sh, code)
    | .error f => (sh.report o.errors f, failureStatus)
  let (world, fault) := sh.world.flushOutlet o.output
  let sh := { sh with world }
  let sh := match fault with
    | none => sh
    | some cause => sh.note (.notFlushed c.name cause)
  (sh.mapWorld o.close, code)

/-- Output that was held back goes out ahead of the program's. A program that cannot be started is
reported to the shell's own errors. -/
def executeProgram (path : Text) (c : Command) (o : Outlets) (sh : Shell) : Shell × Int :=
  let (world, fault) := sh.world.flush
  let sh := { sh with world }
  let sh := match fault with
    | none => sh
    | some cause => sh.note (.notFlushedBeforeLaunch cause)
  let sh := sh.note (.launching path c.name c.arguments)
  let l : Launch :=
    { program := path, name := c.name, arguments := c.arguments,
      vars := sh.session.vars, directory := sh.session.currentDir,
      output := sh.world.outletFile o.output, errors := sh.world.outletFile o.errors }
  match sh.world.launch run l o with
  | (world, .error cause) =>
    ({ sh with world }.report .own (.launch c.name cause), failureStatus)
  | (world, .ok status) =>
    let sh := { sh with world }
    (if world.killedBy.isSome then sh else sh.note (.finished c.name status), status.code)

def executeCommand (c : Command) (o : Outlets) (sh : Shell) : Shell × Int :=
  match sh.meaning c.name with
  | .builtin b => sh.executeBuiltin b c o
  | .program path => sh.executeProgram run path c o
  | .nothing => ((sh.report o.errors (.commandNotFound c.name)).mapWorld o.close, notFoundStatus)

/-- Opens the targets of a line first, and runs its command only when all of them are open. -/
def executeLine (l : CommandLine) (sh : Shell) : Shell × Int :=
  let opener := match l.command with
    | some c => c.name
    | none => shellName
  match World.openTargets opener sh.session.currentDir l.redirects {} sh.world with
  | (world, .error f) => ({ sh with world }.report .own f, failureStatus)
  | (world, .ok o) =>
    match l.command with
    | none => ({ sh with world }.mapWorld o.close, 0)
    | some c => { sh with world }.executeCommand run c o

/-- A line that asks for nothing does nothing. -/
def execute (line : Text) (sh : Shell) : Shell × Int :=
  match CommandLine.parse? line with
  | none => (sh, 0)
  | some l => (sh.note (.parsed l)).executeLine run l

end Shell
end CommandShell
