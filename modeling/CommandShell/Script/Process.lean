import CommandShell.Script.Redirect
import CommandShell.Script.Signal
/-! Processes: where one begins, how it ends, and what those above it see of that. -/
namespace CommandShell.Script

inductive Task where
  /-- A statement. If it is the last one of its process, no other process has to be made for its end.
  If its status is looked at anyway, a failure ends nothing. -/
  | statement (s : Statement) (last tested : Bool)
  | text (source : Octets) (tested : Bool)
  | channel (ch : Channel)
  | program (arguments : List Octets)

namespace Effect

section
variable (again : Task → Effect Nat)

def runTrap (signal : Nat) : Effect Unit := do
  let c ← context
  let status := c.saved.getD c.status
  let restore := amend ({ · with saved := c.saved })
  match c.traps.lookup signal with
  | none => pure ()
  | some t =>
    amend ({ · with saved := some status })
    lastly (tryCatch (do let _ ← again (.text t false)) fun stop =>
      match stop with
      | .back _ false => throw (.back status true)
      | stop => throw stop) restore
    amend ({ · with status })

/-- Runs the traps of all signals that have arrived, lower numbers first. -/
def settle : Effect Unit := do
  let arrived := (← context).arrived
  if !arrived.isEmpty then
    amend ({ · with arrived := [] })
    (arrived.mergeSort (· ≤ ·)).forM (runTrap again)

/-- The status of something that ends a process, unless a signal does. Nothing comes of a process
that is gone already. -/
def endingOf (act : Effect Nat) : Effect (Except WaitStatus Nat) :=
  tryCatch (do return .ok (← act)) fun stop => do
    match stop with
    | .failed n | .exited n | .back n _ => pure (.ok n)
    | .leave .. => pure (.ok 0)
    | .gone n => pure (.error (.exited n))
    | .killed n => pure (.error (.killed n))

/-- Runs something up to the end of its process. A trap at the end may change the status only by
leaving with another one. -/
def conclude (act : Effect Nat) : Effect WaitStatus := do
  match ← endingOf act with
  | .error ending => pure ending
  | .ok status =>
    let c ← context
    match c.traps.lookup 0 with
    | none => pure (.exited status)
    | some t =>
      amend fun c => { c.setTrap 0 none with status, saved := some status, loops := 0 }
      let result ← endingOf <| tryCatch (do
        let _ ← again (.text t false)
        pure status) fun stop =>
        match stop with
        | .back .. | .leave .. => pure status
        | stop => throw stop
      match result with
      | .ok n => pure (.exited n)
      | .error ending => pure ending

/-- Runs something in a process of its own. Gives its number and how it ended. -/
def fork (prepare : Context → Context) (act : Effect Nat) : Effect (Nat × WaitStatus) := do
  let m ← get
  let parent := m.context.forgetJob
  let process := m.nextProcess
  set { m with nextProcess := process + 1, context := prepare (parent.child process) }
  let ending ← conclude again act
  modify ({ · with context := parent })
  collect
  pure (process, ending)

/-- Waits for a process in the foreground, and tells the status that it leaves. -/
def await (ending : WaitStatus) : Effect Nat := do
  if let some t := deathNotice? ending then
    let _ ← write 2 t
  amend (·.noticeJobs)
  pure (statusOf ending)

def apart (act : Effect Nat) : Effect Nat := do
  let (_, ending) ← fork again id act
  await ending

/-- What commands print. Without commands nothing is run. -/
def capture (s : Statement) : Effect Octets := do
  if s.isNothing then return []
  let n ← newPipe
  let (_, ending) ← fork again (·.connect 1 (.pipe n)) (again (.statement s true false))
  let substituted ← await ending
  amend ({ · with substituted })
  drain n

/-- The signals that nobody sends to a process in the background from a terminal. -/
def terminalSignals : List Nat := [2, 3]

/-- A process in the background, the first of its kind. It has no input. -/
def inBackground (ch : Channel) (c : Context) : Context :=
  let c := { c with ignored := terminalSignals ++ c.ignored }
  c.connect 0 ch

def emptyInput : Effect Channel := keepFile ⟨.device .null, 0, false, .reading⟩

/-- Takes down a job whose last process is known. -/
def keepJob (process size : Nat) (ending : WaitStatus) : Effect Nat := do
  amend fun c => { c with
    background := some process
    jobs := { number := c.nextJob, process, size, ending } :: c.jobs }
  pure 0

def detach (act : Effect Nat) : Effect Nat := do
  let ch ← emptyInput
  let (process, ending) ← fork again (inBackground ch) act
  keepJob process 1 ending

/-- Looks for the program of a command ahead of time, so that its place is remembered here. -/
def lookAhead : Statement → Effect Unit
  | .simple _ _ (w :: _) _ => do
    match Word.literal? w with
    | some name => if Octets.isName name then let _ ← kindOf none true name
    | none => pure ()
  | _ => pure ()

/-- Runs the parts of a pipeline, each in a process of its own, from the first to the last. What one
prints is the input of the next. Gives how they ended, the last one first. -/
def stages (background tested : Bool) :
    List Statement → Option Channel → List (Nat × WaitStatus) → Effect (List (Nat × WaitStatus))
  | [], _, endings => pure endings
  | s :: rest, input, endings => do
    lookAhead s
    let n ← newPipe
    let prepare := fun c : Context =>
      let c := if background then { c with ignored := terminalSignals ++ c.ignored } else c
      let c := match input with
        | some ch => c.connect 0 ch
        | none => c
      if rest.isEmpty then c else c.connect 1 (.pipe n)
    let ending ← fork again prepare (again (.statement s true tested))
    stages background tested rest (some (.pipe n)) (ending :: endings)

/-- Runs a pipeline. Its status is that of its last part. -/
def pipeline (background tested : Bool) (parts : List Statement) : Effect Nat := do
  let input ← if background then some <$> emptyInput else pure none
  let endings ← stages again background tested parts input []
  let (process, ending) := endings.headD (0, .exited 0)
  if background then keepJob process parts.length ending
  else
    (endings.tail.reverse).forM fun (_, e) => do
      let _ ← await e
    await ending

/-- Runs a program in place of the interpreter. It is looked for at one path after another. -/
def replaceProcess {α : Type} (paths fields : List Octets) (failed : Nat → Effect α) :
    Effect α := do
  match ← programArguments paths fields with
  | .ok arguments => throw (.gone (← again (.program arguments)))
  | .error cause =>
    complain (fields.headD [] ++ ": ".toList ++ reasonFor "not found" cause)
    failed (launchStatus cause)

end
end Effect
end CommandShell.Script
