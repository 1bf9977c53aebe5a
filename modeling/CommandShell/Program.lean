import CommandShell.Options
import CommandShell.Session.Loop
/-! The shell as a program: from its arguments to its exit status. -/
namespace CommandShell

namespace World

/-- A process with a directory to stand in, variables and input, whose streams take everything. -/
def fresh (disk : Disk) (cwd : Place) (environment : Environment) (input : Intake) : World where
  surroundings := { disk, output := .stream {}, errors := .stream {} }
  input := input
  cwd := cwd
  pending := []
  descriptors := {}
  environment := environment
  log := none
  noted := []
  signals := []
  killedBy := none

/-- Starts a log with records that bear a stamp. At the lowest level there is none. -/
def startLog (level : Level) (file : Option Text) (stamp : Text) (w : World) : World × Option Fault :=
  if level = .off then (w, none)
  else match file with
    | none => ({ w with log := some ⟨level, none, stamp, w.environment.hasColors⟩ }, none)
    | some path =>
      match w.disk.openFile w.cwd .append path with
      | .error cause => (w, some cause)
      | .ok (disk, f) =>
        ({ w with
            surroundings := { w.surroundings with disk }
            log := some ⟨level, some f, stamp, false⟩ }, none)

def announce (message : Text) (w : World) : World :=
  (w.writeErrors (Utf8.encode (message ++ "\n"))).1

def path (w : World) : Text :=
  if w.disk.holds w.cwd then '/' :: Text.join ['/'] w.cwd.location.reverse else "."

end World

def logFailure (file : Text) (cause : Fault) : Text :=
  "can't open log file " ++ file ++ ": " ++ cause.text

namespace Program

def success : Nat := 0

def failure : Nat := 1

/-- The status after output could not be printed at all. -/
def outputLost : Nat := 101

def usageHint : Text := "Run shell_repl --help for more information."

/-- Prints what the arguments ask for in place of a run. -/
def refuse (e : EarlyExit) (w : World) : World × Nat :=
  match e with
  | .help =>
    match World.print .own [e.message, "\n"] w with
    | (w, none) => (w, success)
    | (w, some cause) => (w.announce ("failed printing to stdout: " ++ cause.text), outputLost)
  | e => (w.announce (e.message ++ "\n" ++ usageHint), failure)

def startLog (o : Options) (stamp : Text) (w : World) : World :=
  match w.startLog o.logLevel o.logFile stamp with
  | (w, none) => w
  | (w, some cause) =>
    w.announce ("shell_repl: logging disabled: " ++ logFailure (o.logFile.getD []) cause)

/-- Executes one line, whose status is that of the program unless it ends the session. -/
def runCommand (run : Runner) (line : Text) (sh : Shell) : World × Nat :=
  let (sh, code) := sh.execute run line
  (sh.world, if sh.session.exiting then success else (code % 256).toNat)

def runLoop (run : Runner) (prompt : Text) (sh : Shell) : World × Nat :=
  match sh.repl run prompt (.standard []) with
  | (sh, none) => (sh.world, success)
  | (sh, some cause) => (sh.world.announce ("shell_repl: " ++ cause.text), failure)

def runWith (run : Runner) (o : Options) (stamp : Text) (w : World) : World × Nat :=
  let w := startLog o stamp w
  let sh := Session.inherit w.path w
  match o.command with
  | some line => runCommand run line sh
  | none => runLoop run o.prompt sh

/-- The arguments as text, or the first that is none. -/
def readArguments : List Bytes → Except Bytes (List Text)
  | [] => .ok []
  | a :: rest =>
    match Utf8.decode? a with
    | none => .error a
    | some t => (readArguments rest).map (t :: ·)

/-- The whole program. Output that is still held back at the end goes out if it can, unless a signal
ends the program before. -/
def run (runner : Runner) (stamp : Text) (arguments : List Bytes) (w : World) :
    World × WaitStatus :=
  let (w, status) :=
    match readArguments arguments with
    | .error a => (w.announce ("Invalid utf8: " ++ Utf8.decode a), failure)
    | .ok args =>
      match Options.ofArguments args with
      | .error e => refuse e w
      | .ok o => runWith runner o stamp w
  match w.killedBy with
  | some signal => (w, .killed signal)
  | none => (w.release.1, .exited status)

end Program
end CommandShell
