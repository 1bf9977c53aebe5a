import CommandShell.Text.Decimal
/-! How a program ended, packed into one number. The lowest seven bits are zero after an exit, whose
code fills the next byte, and hold the signal otherwise. -/
namespace CommandShell

structure WaitStatus where
  word : Nat
  deriving DecidableEq

/-- The names of the signals from 1 on. -/
def signalNames : List Text :=
  ["HUP", "INT", "QUIT", "ILL", "TRAP", "ABRT", "BUS", "FPE", "KILL", "USR1", "SEGV", "USR2",
   "PIPE", "ALRM", "TERM", "STKFLT", "CHLD", "CONT", "STOP", "TSTP", "TTIN", "TTOU", "URG",
   "XCPU", "XFSZ", "VTALRM", "PROF", "WINCH", "IO", "PWR", "SYS"].map String.toList

def signalName? (n : Nat) : Option Text :=
  if n = 0 then none else signalNames[n - 1]?

namespace WaitStatus

def exited (code : Nat) : WaitStatus := ⟨code % 256 * 256⟩

def killed (signal : Nat) : WaitStatus := ⟨signal % 128⟩

def exitCode? (s : WaitStatus) : Option Nat :=
  if s.word % 128 = 0 then some (s.word / 256 % 256) else none

/-- 127 in place of a signal says that the program was only stopped. -/
def signal? (s : WaitStatus) : Option Nat :=
  if s.word % 128 = 0 ∨ s.word % 128 = 127 then none else some (s.word % 128)

def dumpedCore (s : WaitStatus) : Bool := s.signal?.isSome && s.word.testBit 7

/-- What a command returns whose program ended so. -/
def code (s : WaitStatus) : Int :=
  match s.exitCode?, s.signal? with
  | some n, _ => n
  | none, some n => 128 + n
  | none, none => if s.dumpedCore then 255 else -1

def signalText (n : Nat) : Text :=
  decimal n ++ match signalName? n with
    | some name => " (SIG" ++ name ++ ")"
    | none => []

def text (s : WaitStatus) : Text :=
  match s.exitCode?, s.signal? with
  | some n, _ => "exit status: " ++ decimal n
  | none, some n =>
    "signal: " ++ signalText n ++ if s.dumpedCore then " (core dumped)" else ""
  | none, none =>
    if s.word = 0xFFFF then "continued (WIFCONTINUED)"
    else "stopped (not terminated) by signal: " ++ signalText (s.word / 256 % 256)

theorem exitCode?_exited (n : Nat) : (exited n).exitCode? = some (n % 256) := by
  simp [exited, exitCode?]; omega

end WaitStatus
end CommandShell
