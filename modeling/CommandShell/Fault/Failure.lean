import CommandShell.Fault.Basic
/-! How a command can fail, and the message for each way. -/
namespace CommandShell

inductive Failure where
  | commandNotFound (name : Text)
  | missingOperand (name : Text)
  | noSuchDirectory (path : Text)
  | redirection (command path : Text) (cause : Fault)
  | launch (command : Text) (cause : Fault)
  | output (command : Text) (cause : Fault)
  deriving DecidableEq

/-- What the user reads. Only a built-in's failed write shows the number of its cause. -/
def Failure.message : Failure → Text
  | commandNotFound name => name ++ ": command not found"
  | missingOperand name => name ++ ": missing operand"
  | noSuchDirectory path => "cd: " ++ path ++ ": No such file or directory"
  | redirection command path cause => command ++ ": " ++ path ++ ": " ++ cause.reason
  | launch command cause => command ++ ": " ++ cause.reason
  | output command cause => command ++ ": " ++ cause.text

end CommandShell
