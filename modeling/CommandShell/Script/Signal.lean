import CommandShell.Script.Job
/-! Signals: their names, what they do to a process, and the commands that wait for them or send
them. A signal to a process above stays under way until that process takes notice. -/
namespace CommandShell.Script

namespace Signal

/-- All signals are below this number. Number zero stands for the end of a script. -/
def count : Nat := 65

def kill : Nat := 9

def stop : Nat := 19

def terminate : Nat := 15

/-- Signals that do nothing to a process, or would only stop it for a while. -/
def harmless : List Nat := [17, 18, stop, 20, 21, 22, 23, 28]

def name (n : Nat) : Octets :=
  if n = 0 then "EXIT".toList
  else if n = 16 then decimal n
  else match signalName? n with
    | some t => t
    | none =>
      if n < 34 then decimal n
      else if n = 34 then "RTMIN".toList
      else if n < 50 then "RTMIN+".toList ++ decimal (n - 34)
      else if n < 64 then "RTMAX-".toList ++ decimal (64 - n)
      else "RTMAX".toList

def ofNumber? (t : Octets) : Option Nat := (Octets.number? t).filter (· < count)

/-- The signal of a number, or of a name in any case. The first that counts is `least`. -/
def read? (least : Nat) (t : Octets) : Option Nat :=
  let upper := t.map Char.toUpper
  (ofNumber? t).or ((List.range count).find? fun n => least ≤ n && name n == upper)

end Signal

inductive Response where
  | ignore
  | trap
  | die
  deriving DecidableEq

namespace Context

def response (signal : Nat) (c : Context) : Response :=
  if signal = Signal.kill then .die
  else if signal = 0 ∨ signal = Signal.stop ∨ signal ∈ c.ignored then .ignore
  else match c.traps.lookup signal with
    | some [] => .ignore
    | some _ => .trap
    | none => if signal ∈ Signal.harmless then .ignore else .die

/-- Sets what is to be done at a signal. Nothing at all is what it would do by itself. -/
def setTrap (signal : Nat) (action : Option Octets) (c : Context) : Context :=
  { c with
    traps := (action.map fun t => (signal, t)).toList ++ c.traps.filter (·.1 != signal) }

/-- The signals that programs started here ignore for good. -/
def ignoredSignals (c : Context) : List Nat :=
  c.ignored ++ c.traps.filterMap fun (n, t) => if t.isEmpty && n ≠ 0 then some n else none

end Context

namespace Effect

def receive (signal : Nat) : Effect Unit := do
  match (← context).response signal with
  | .ignore => pure ()
  | .trap => amend fun c => { c with arrived := signal :: c.arrived.filter (· != signal) }
  | .die => throw (.killed signal)

def collect : Effect Unit := do
  let m ← get
  let own := m.mail.filter (·.1 == m.context.process)
  if !own.isEmpty then
    set { m with mail := m.mail.filter (·.1 != m.context.process) }
    own.reverse.forM fun (_, signal) => receive signal

/-- Sends a signal to a process, and tells whether there is such a one. -/
def send (signal process : Nat) : Effect Bool := do
  let c ← context
  if process = c.process then
    receive signal
    pure true
  else if c.ancestors.contains process then
    modify fun m => { m with mail := (process, signal) :: m.mail }
    pure true
  else pure (c.jobs.any fun j => j.process = process && !j.waited)

def killUsage : Octets :=
  "Usage: kill [-s sigspec | -signum | -sigspec] [pid | job]... or\nkill -l [exitstatus]".toList

/-- Sends a signal to those that arguments name. Status 1 tells that one of them is not there. -/
def sendAll (signal : Nat) : List Octets → Nat → Effect Nat
  | [], status => pure status
  | arg :: rest, status => do
    let there ← match arg with
      | '%' :: _ => do
        let _ ← job (some arg)
        pure false
      | '-' :: t => do
        let _ ← ordinal t ordinal?
        pure false
      | t => do send signal (← ordinal t ordinal?)
    if !there then complain "No such process\n".toList
    sendAll signal rest (if there then status else 1)

/-- The names of all signals, or of the one that a status tells of. -/
def listSignals (args : List Octets) : Effect Nat := do
  match args with
  | [] =>
    print "0\n".toList
    (List.range (Signal.count - 1)).forM fun n => print (Signal.name (n + 1) ++ ['\n'])
  | arg :: _ =>
    let n ← ordinal arg ordinal?
    let n := if 128 < n then n - 128 else n
    if n = 0 ∨ Signal.count ≤ n then
      fail ("invalid signal number or exit status: ".toList ++ arg)
    print (Signal.name n ++ ['\n'])
  pure 0

/-- The last signal that switches ask for. -/
def chosenSignal : List (Char × Octets) → Option Nat → Effect (Option Nat)
  | [], signal => pure signal
  | ('s', t) :: rest, _ => do
    match Signal.read? 1 t with
    | some n => chosenSignal rest (some n)
    | none => fail ("invalid signal number or name: ".toList ++ t)
  | _ :: rest, signal => chosenSignal rest signal

def killCommand (args : List Octets) : Effect Nat := do
  match args with
  | [] => fail killUsage
  | ('-' :: t) :: rest =>
    if let some signal := Signal.read? 1 t then
      if rest.isEmpty then fail killUsage
      return ← sendAll signal rest 0
    let s := Switches.read [('l', false), ('s', true)] [] args
    let signal ← chosenSignal s.given none
    if let some message := s.misuse then fail message
    if s.has 'l' then
      if signal.isSome && !s.rest.isEmpty then fail killUsage
      return ← listSignals s.rest
    if s.rest.isEmpty then fail killUsage
    sendAll (signal.getD Signal.terminate) s.rest 0
  | args => sendAll Signal.terminate args 0

/-- Sets the same action for several signals, up to the first that is none. -/
def setTraps (action : Option Octets) : List Octets → Effect Nat
  | [] => pure 0
  | t :: rest => do
    match Signal.read? 0 t with
    | some n =>
      amend (·.setTrap n action)
      setTraps action rest
    | none =>
      let _ ← write 2 ("trap: ".toList ++ t ++ ": bad trap\n".toList)
      pure 1

def trapCommand (args : List Octets) : Effect Nat := do
  match ← operands args with
  | [] =>
    let traps := (← context).traps.mergeSort fun s t => s.1 ≤ t.1
    traps.forM fun (n, t) =>
      print ("trap -- ".toList ++ Octets.quoted t ++ [' '] ++ Signal.name n ++ ['\n'])
    pure 0
  | [t] => setTraps none [t]
  | t :: rest =>
    if (Signal.ofNumber? t).isSome then setTraps none (t :: rest)
    else setTraps (if t = ['-'] then none else some t) rest

end Effect
end CommandShell.Script
