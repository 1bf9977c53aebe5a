import CommandShell.Fault.Errno
/-! Why reading, writing or starting something failed. -/
namespace CommandShell

inductive Fault where
  | system (errno : Errno)
  | other (reason : Text)
  deriving DecidableEq

/-- What stands between a description and the number of its cause. -/
def numberMark : Text := " (os error "

/-- The text before the first `mark`, or all of it. -/
def Text.before (mark : Text) : Text → Text
  | [] => []
  | c :: t => if mark.isPrefixOf (c :: t) then [] else c :: Text.before mark t

namespace Fault

/-- A system's cause is shown with its number. -/
def text : Fault → Text
  | system e => e.description ++ numberMark ++ (toString e.number).toList ++ [')']
  | other reason => reason

def reason (f : Fault) : Text := Text.before numberMark f.text

def nulInPath : Fault := .other "file name contained an unexpected NUL byte"

def nulInData : Fault := .other "nul byte found in provided data"

/-- The output had no room for all of a text. -/
def outOfRoom : Fault := .other "failed to write whole buffer"

end Fault
end CommandShell
