import CommandShell.Script.Numeral
import CommandShell.Script.Switch
/-! Commands that run in the background, and those that ask for them. -/
namespace CommandShell.Script

def signalDescriptions : List String :=
  ["Hangup", "Interrupt", "Quit", "Illegal instruction", "Trace/breakpoint trap", "Aborted",
   "Bus error", "Floating point exception", "Killed", "User defined signal 1",
   "Segmentation fault", "User defined signal 2", "Broken pipe", "Alarm clock", "Terminated",
   "Stack fault", "Child exited", "Continued", "Stopped (signal)", "Stopped",
   "Stopped (tty input)", "Stopped (tty output)", "Urgent I/O condition",
   "CPU time limit exceeded", "File size limit exceeded", "Virtual timer expired",
   "Profiling timer expired", "Window changed", "I/O possible", "Power failure",
   "Bad system call", "Unknown signal 32", "Unknown signal 33"]

def signalDescription (n : Nat) : Octets :=
  match signalDescriptions[n - 1]? with
  | some t => t.toList
  | none => "Real-time signal ".toList ++ decimal (n - 34)

/-- The status that a process leaves, which is not zero after a signal. -/
def statusOf (s : WaitStatus) : Nat := s.code.toNat

/-- A line about a death that was not to be expected. -/
def deathNotice? (s : WaitStatus) : Option Octets :=
  match s.signal? with
  | some n => if n = 2 ∨ n = 13 then none else some (signalDescription n ++ ['\n'])
  | none => none

namespace Job

def state (j : Job) : Octets :=
  if !j.noticed then "Running".toList
  else match j.ending.signal?, statusOf j.ending with
    | some n, _ => signalDescription n
    | none, 0 => "Done".toList
    | none, n => "Done(".toList ++ decimal n ++ [')']

def line (mark : Char) (j : Job) : Octets :=
  let lead := ['['] ++ decimal j.number ++ "] ".toList ++ [mark, ' ']
  Octets.padded 33 (lead ++ j.state) ++ (List.replicate (j.size - 1) " | ".toList).flatten ++ ['\n']

end Job

namespace Context

/-- The jobs that are there are all known to have ended, from this one on to those before it. -/
def notice (number : Nat) (c : Context) : Context :=
  let later := c.jobs.takeWhile (·.number != number)
  { c with jobs := later ++ (c.jobs.drop later.length).map ({ · with noticed := true }) }

def setWaited (number : Nat) (c : Context) : Context :=
  { c with
    jobs := c.jobs.map fun j => if j.number = number then { j with waited := true } else j }

/-- The mark of a job: the last one has a plus, the one before it a minus. -/
def jobMark (number : Nat) (c : Context) : Char :=
  match c.jobs.findIdx? (·.number == number) with
  | some 0 => '+'
  | some 1 => '-'
  | _ => ' '

end Context

namespace Effect

/-- The job that an argument names. Without one it is the last. -/
def job (arg : Option Octets) : Effect Job := do
  let jobs := (← context).jobs
  let found (missing : Octets) (j : Option Job) : Effect Job :=
    match j with
    | some j => pure j
    | none => fail missing
  let current := found "No current job".toList jobs.head?
  match arg with
  | none => current
  | some t =>
    match t with
    | ['%'] | ['%', '+'] | ['%', '%'] => current
    | ['%', '-'] => found "No previous job".toList jobs[1]?
    | '%' :: u =>
      let number := (Octets.number? u).filter (0 < ·)
      found ("No such job: ".toList ++ t) (jobs.find? fun j => some j.number == number)
    | t => found ("No such job: ".toList ++ t) none

/-- Shows a job, which is forgotten afterwards if it has ended. -/
def showJob (format : Option Char) (j : Job) : Effect Unit := do
  match format with
  | some 'p' => print (decimal j.process ++ ['\n'])
  | _ => print (j.line ((← context).jobMark j.number))
  if j.noticed then
    amend fun c => { c with jobs := c.jobs.filter (·.number != j.number) }

def showAll (format : Option Char) : List Job → Effect Unit
  | [] => pure ()
  | j :: js => do
    showJob format j
    showAll format js

def jobsCommand (args : List Octets) : Effect Nat := do
  let s ← switches [('l', false), ('p', false)] args
  let format := s.given.getLast?.map (·.1)
  if s.rest.isEmpty then showAll format (← context).jobs
  else s.rest.forM fun a => do showJob format (← job (some a))
  pure 0

/-- Jobs go on in the foreground only where they are under control, which they are not. -/
def resumeCommand (args : List Octets) : Effect Nat := do
  let arg := (← operands args).head?
  let _ ← job arg
  fail ("job ".toList ++ arg.getD "(null)".toList ++ " not created under job control".toList)

/-- Waits for the job that an argument names and gives its status. -/
def waitFor (arg : Octets) : Effect Nat := do
  let j? ←
    if arg.head? = some '%' then some <$> job (some arg)
    else do
      let process ← ordinal arg ordinal?
      pure ((← context).jobs.find? (·.process == process))
  match j? with
  | none => pure 127
  | some j =>
    if !j.noticed then
      if let some t := deathNotice? j.ending then
        let _ ← write 2 t
    amend fun c => (c.notice j.number).setWaited j.number
    pure (statusOf j.ending)

def waitForAll : List Octets → Nat → Effect Nat
  | [], status => pure status
  | a :: rest, _ => do waitForAll rest (← waitFor a)

def waitCommand (args : List Octets) : Effect Nat := do
  match ← operands args with
  | [] =>
    amend fun c => { c with jobs := c.jobs.map ({ · with noticed := true, waited := true }) }
    pure 0
  | args => waitForAll args 127

end Effect
end CommandShell.Script
