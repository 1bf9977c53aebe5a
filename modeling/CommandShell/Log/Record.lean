import CommandShell.Line.Command
import CommandShell.Text.Quoted
import CommandShell.Text.Utf8
import CommandShell.Fault.Basic
import CommandShell.Program.Status
import CommandShell.Log.Level
/-! What the shell has to say about its own work. -/
namespace CommandShell

inductive Record where
  | parsed (line : CommandLine)
  | ignored (fd : Nat) (target : Text)
  | failed (message : Text)
  | launching (program name : Text) (arguments : List Text)
  | finished (name : Text) (status : WaitStatus)
  | notEntered (path : Text) (cause : Fault)
  | endOfInput
  | interrupted
  | skippedVariable (name : Text)
  | malformedLine (m : Utf8.Malformed)
  | notFlushed (name : Text) (cause : Fault)
  | notFlushedBeforeLaunch (cause : Fault)
  | notReported (message : Text)
  deriving DecidableEq

namespace Record

def level : Record → Level
  | skippedVariable _ | malformedLine _ | notFlushed .. | notFlushedBeforeLaunch _
  | notReported _ => .warn
  | _ => .debug

/-- The part of the shell that a record comes from. -/
def origin : Record → Text
  | parsed _ | failed _ | endOfInput | interrupted | notFlushed .. | notFlushedBeforeLaunch _
  | notReported _ => "shell_repl::interpreter"
  | ignored .. => "shell_repl::command"
  | launching .. | finished .. => "shell_repl::external"
  | notEntered .. => "shell_repl::builtin"
  | skippedVariable _ => "shell_repl::env"
  | malformedLine _ => "shell_repl::io_adapters"

def commandText : Option Command → Text
  | none => "None"
  | some c =>
    "Some(ParsedCommand \x7b name: " ++ c.name.quoted ++ ", arguments: " ++
      Text.quotedList c.arguments ++ " \x7d)"

def redirectsText (rs : Redirects) : Text :=
  "\x7b" ++ Text.join ", " (rs.map fun (n, t) => decimal n ++ ": " ++ t.quoted) ++ "\x7d"

def message : Record → Text
  | parsed l => "parsed " ++ commandText l.command ++ " with redirects " ++ redirectsText l.redirects
  | ignored fd target => "ignoring redirection of descriptor " ++ decimal fd ++ " to " ++ target
  | failed m => "command failed: " ++ m
  | launching program name arguments =>
    "launching " ++ program ++ " as " ++ name.quoted ++ " with " ++ Text.quotedList arguments
  | finished name status => name ++ " finished: " ++ status.text
  | notEntered path cause => "chdir to " ++ path ++ " failed: " ++ cause.text
  | endOfInput => "end of input"
  | interrupted => "interrupted at prompt"
  | skippedVariable name => "skipping environment variable " ++ name.quoted ++ ": not valid UTF-8"
  | malformedLine m => "input line is not valid UTF-8: " ++ m.message
  | notFlushed name cause => name ++ ": flushing output failed: " ++ cause.text
  | notFlushedBeforeLaunch cause => "flushing output before launch failed: " ++ cause.text
  | notReported m => "could not report error: " ++ m

/-- The line of the log. Records for debugging tell their thread and where they come from. -/
def line (stamp : Text) (colored : Bool) (r : Record) : Text :=
  stamp ++ " " ++ r.level.tag colored ++
    (if r.level = .debug then "(1) " ++ r.origin ++ ": " else []) ++ r.message ++ "\n"

end Record
end CommandShell
