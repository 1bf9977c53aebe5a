import CommandShell.Line.Token
import CommandShell.Line.Redirect
/-! What a line asks for: a command, redirections, or both. -/
namespace CommandShell

structure Command where
  name : Text
  arguments : List Text
  deriving DecidableEq

/-- The first word names the command. -/
def Command.ofWords? : List Text → Option Command
  | [] => none
  | name :: arguments => some { name, arguments }

structure CommandLine where
  command : Option Command
  redirects : Redirects
  deriving DecidableEq

/-- None when the line asks for nothing. -/
def CommandLine.parse? (line : Text) : Option CommandLine :=
  let (ws, rs) := extract (tokens line)
  let command := Command.ofWords? ws
  if command.isNone && rs.isEmpty then none else some { command, redirects := rs }

end CommandShell
