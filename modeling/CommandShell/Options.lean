import CommandShell.Log.Level
/-! The command line of the shell itself: four settings, each with one value. -/
namespace CommandShell

structure Options where
  prompt : Text
  command : Option Text
  logLevel : Level
  logFile : Option Text
  deriving DecidableEq

def defaultPrompt : Text := "$ "

inductive EarlyExit where
  | help
  | trailing
  | unrecognized (argument : Text)
  | noValue (option : Text)
  | duplicate (option value : Text)
  | noLevel (option value : Text)
  deriving DecidableEq

def helpText : Text :=
  "Usage: shell_repl [--prompt <prompt>] [-c <command>] [--log-level <log-level>] [--log-file <log-file>]\n\nInteractive command interpreter with built-ins, PATH lookup and output redirection.\n\nOptions:\n  --prompt          text shown before each input line (default: \"$ \")\n  -c, --command     execute this line and exit with its status instead of\n                    reading input\n  --log-level       log verbosity: off, error, warn, info, debug or trace\n                    (default: off)\n  --log-file        append log records to this file instead of standard error\n  --help, help      display usage information\n"

namespace EarlyExit

def badValue (option value reason : Text) : Text :=
  "Error parsing option '" ++ option ++ "' with value '" ++ value ++ "': " ++ reason ++ "\n"

def message : EarlyExit → Text
  | help => helpText
  | trailing => "Trailing arguments are not allowed after `help`."
  | unrecognized a => "Unrecognized argument: " ++ a ++ "\n"
  | noValue o => "No value provided for option '" ++ o ++ "'.\n"
  | duplicate o v => badValue o v "duplicate values provided"
  | noLevel o v => badValue o v "attempted to convert a string that doesn't match an existing log level"

end EarlyExit

/-- The settings given so far, and whether help was asked for. -/
structure Given where
  prompt : Option Text := none
  command : Option Text := none
  level : Option Level := none
  file : Option Text := none
  help : Bool := false
  deriving DecidableEq

namespace Given

/-- The value of a setting that may be given once. -/
def once (old : Option Text) (option value : Text) : Except EarlyExit (Option Text) :=
  if old.isSome then .error (.duplicate option value) else .ok (some value)

/-- The effect of an option and its value, or nothing for a text that is no option. -/
def setter? (option : Text) : Option (Given → Text → Except EarlyExit Given) :=
  if option = "--prompt".toList then
    some fun g v => (once g.prompt option v).map ({ g with prompt := · })
  else if option = "--command".toList ∨ option = "-c".toList then
    some fun g v => (once g.command option v).map ({ g with command := · })
  else if option = "--log-file".toList then
    some fun g v => (once g.file option v).map ({ g with file := · })
  else if option = "--log-level".toList then
    some fun g v =>
      if g.level.isSome then .error (.duplicate option v)
      else match Level.ofName? v with
        | none => .error (.noLevel option v)
        | some l => .ok { g with level := some l }
  else none

/-- Arguments from left to right; the first one that does not fit ends the reading. No argument
stands alone, and after `--` nothing else does. -/
def read (g : Given) : List Text → Except EarlyExit Given
  | [] => .ok g
  | a :: rest =>
    if a = "help".toList ∨ a = "--help".toList then read { g with help := true } rest
    else if a.head? ≠ some '-' then .error (.unrecognized a)
    else if a = "--".toList then
      match rest with
      | [] => .ok g
      | b :: _ => .error (.unrecognized b)
    else if g.help then .error .trailing
    else match setter? a with
      | none => .error (.unrecognized a)
      | some set =>
        match rest with
        | [] => .error (.noValue a)
        | v :: rest =>
          match set g v with
          | .error e => .error e
          | .ok g => read g rest

def options (g : Given) : Options where
  prompt := g.prompt.getD defaultPrompt
  command := g.command
  logLevel := g.level.getD .off
  logFile := g.file

end Given

/-- The options that the arguments give. A call for help counts when all else fits. -/
def Options.ofArguments (args : List Text) : Except EarlyExit Options :=
  match Given.read {} args with
  | .error e => .error e
  | .ok g => if g.help then .error .help else .ok g.options

end CommandShell
