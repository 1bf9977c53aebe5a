import CommandShell.Script.Octets
/-! The flags that change what an interpreter does. -/
namespace CommandShell.Script

inductive Flag where
  | errexit
  | noglob
  | ignoreeof
  | interactive
  | monitor
  | noexec
  | stdin
  | xtrace
  | verbose
  | vi
  | emacs
  | noclobber
  | allexport
  | notify
  | nounset
  | privileged
  | nolog
  | debug
  deriving DecidableEq

namespace Flag

def all : List Flag :=
  [errexit, noglob, ignoreeof, interactive, monitor, noexec, stdin, xtrace, verbose, vi, emacs,
   noclobber, allexport, notify, nounset, privileged, nolog, debug]

def name : Flag → Octets
  | errexit => "errexit".toList
  | noglob => "noglob".toList
  | ignoreeof => "ignoreeof".toList
  | interactive => "interactive".toList
  | monitor => "monitor".toList
  | noexec => "noexec".toList
  | stdin => "stdin".toList
  | xtrace => "xtrace".toList
  | verbose => "verbose".toList
  | vi => "vi".toList
  | emacs => "emacs".toList
  | noclobber => "noclobber".toList
  | allexport => "allexport".toList
  | notify => "notify".toList
  | nounset => "nounset".toList
  | privileged => "privileged".toList
  | nolog => "nolog".toList
  | debug => "debug".toList

/-- The letter of a flag. Two of them have a name only. -/
def letter? : Flag → Option Char
  | errexit => some 'e'
  | noglob => some 'f'
  | ignoreeof => some 'I'
  | interactive => some 'i'
  | monitor => some 'm'
  | noexec => some 'n'
  | stdin => some 's'
  | xtrace => some 'x'
  | verbose => some 'v'
  | vi => some 'V'
  | emacs => some 'E'
  | noclobber => some 'C'
  | allexport => some 'a'
  | notify => some 'b'
  | nounset => some 'u'
  | privileged => some 'p'
  | nolog | debug => none

def ofLetter? (c : Char) : Option Flag := all.find? (·.letter? == some c)

def ofName? (name : Octets) : Option Flag := all.find? (·.name == name)

theorem ofName?_name (f : Flag) : ofName? f.name = some f := by cases f <;> rfl

end Flag

namespace Flags

/-- The flags with one of them set, or not. -/
def set (f : Flag) (on : Bool) (fs : List Flag) : List Flag :=
  if on then f :: fs.filter (· != f) else fs.filter (· != f)

def letters (fs : List Flag) : Octets :=
  Flag.all.reverse.filterMap fun f => if fs.contains f then f.letter? else none

def table (fs : List Flag) : Octets :=
  "Current option settings\n".toList ++ Flag.all.flatMap fun f =>
    Octets.padded 16 f.name ++ (if fs.contains f then "on\n" else "off\n").toList

/-- The commands that set all flags so. -/
def commands (fs : List Flag) : Octets :=
  Flag.all.flatMap fun f =>
    (if fs.contains f then "set -o " else "set +o ").toList ++ f.name ++ ['\n']

end Flags
end CommandShell.Script
