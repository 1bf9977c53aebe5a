import CommandShell.Script.Run
/-! The interpreter of scripts as a program: what it takes over when it is started, and where the
script comes from. -/
namespace CommandShell.Script

/-- Variables of the interpreter, unless they are given to it. -/
def usualVariables : List (String × String) :=
  [("PATH", String.ofList standardPath), ("PS1", "# "), ("PS2", "> "), ("PS4", "+ ")]

namespace Context

/-- A variable gets a value, but what is said of it stays. -/
def putValue (name value : Octets) (c : Context) : Context :=
  c.put { name, value := some value, exported := (c.find? name).any (·.exported) }

def started (c : Context) : Context :=
  let own := usualVariables.map fun (n, v) =>
    ({ name := n.toList, value := some v.toList } : Variable)
  let given := c.environment.filterMap fun v =>
    let (name, value) := splitAssignment (Octets.ofBytes (Environment.string v))
    if Octets.isName name then some { name, value, exported := true } else none
  let fresh : Context :=
    { name := "sh".toList, vars := own, place := c.place, channels := c.channels, held := c.held
      process := c.process, root := c.process, ancestors := c.ancestors
      ignored := c.ignoredSignals }
  let fresh := given.foldl (fun c v => c.put v) fresh
  let parent := decimal (c.ancestors.headD 0)
  ((fresh.putValue "IFS".toList usualSeparators).putValue "OPTIND".toList ['1']).putValue
    "PPID".toList parent

/-- The name by which the working directory is known from outside, if it is one of its names. -/
def givenDirectory? (d : Disk) (c : Context) : Option Octets :=
  match c.value? "PWD".toList with
  | some ('/' :: t) =>
    match d.enter c.place (Octets.toText ('/' :: t)) with
    | .ok p => if d.holds c.place && p = c.place then some ('/' :: t) else none
    | .error _ => none
  | _ => none

end Context

inductive Source where
  | text (t : Octets) (input : Bool)
  | input
  | file (ch : Channel)

namespace Effect

/-- Sets the name of the interpreter and the arguments of its script, which start with that name if
there are any. -/
def takeArguments (args : List Octets) : Effect Unit := amend fun c =>
  match args with
  | [] => c
  | name :: rest => { c with name, arguments := rest }

/-- Finds out from the arguments of the interpreter where its script is. -/
def findSource (args : List Octets) : Effect Source := do
  amend ({ · with undecided := Flag.all })
  let (letters, _, rest) ← setFlags ['c', 'l'] (args.length + 1) args
  let isText := letters.contains 'c'
  if rest.isEmpty then
    if isText then fail "-c requires an argument".toList
    setFlag .stdin true
  let c ← context
  if c.isOn .interactive && c.undecided.contains .monitor then setFlag .monitor true
  amend ({ · with undecided := [] })
  let input ← isOn .stdin
  let source ← match rest with
    | t :: others =>
      if isText then
        takeArguments others
        pure (.text t input)
      else if input then
        amend ({ · with arguments := rest })
        pure .input
      else
        let ch ← openPath .read t
        takeArguments rest
        amend fun c => { c with held := ch :: c.held }
        pure (.file ch)
    | [] => pure .input
  dropMonitor
  pure source

section
variable (again : Task → Effect Nat)

def runSource : Source → Effect Nat
  | .file ch => runChannel again true (some ch)
  | .input => runChannel again true none
  | .text t input => do
    let status ← tryCatch (do return some (← runText again t false)) fun stop => do
      survive stop
      return none
    match status with
    | some status => if input then runChannel again true none else pure status
    | none => runChannel again true none

/-- Runs an interpreter in place of what was there before in its process. -/
def runInterpreter (args : List Octets) : Effect Nat := do
  amend (·.started)
  let ending ← conclude again do
    let c ← context
    nameDirectory (c.givenDirectory? (← disk))
    let _ ← release
    amend ({ · with name := args.headD [] })
    let source ← findSource args.tail
    let _ ← release
    let _ ← runSource again source
    return (← context).status
  match ending.exitCode?, ending.signal? with
  | some n, _ => pure n
  | none, some n => throw (.killed n)
  | none, none => pure 0

def perform : Task → Effect Nat
  | .statement s last tested => runStatement again s last tested
  | .text source tested => runText again source tested
  | .channel ch => runChannel again false (some ch)
  | .program args => runInterpreter again args

end

/-- A task that may go so many steps down. -/
def run : Nat → Task → Effect Nat
  | 0, _ => throw (.killed Signal.kill)
  | n + 1, t => perform (run n) t

end Effect

/-- How many steps down any script may go. -/
def depthLimit : Nat := 100000

def firstProcess : Nat := 1000

/-- What the installed interpreter does when it is started. -/
def runner : Runner := fun p s =>
  let files := p.output.toList ++ p.errors.toList
  let out := if p.output.isSome then Channel.file 0 else .output
  let err := if p.errors.isSome then Channel.file (files.length - 1) else .errors
  let vars := p.environment.map fun (n, v) =>
    ({ name := Octets.ofBytes n, value := some (Octets.ofBytes v), exported := true } : Variable)
  let machine : Machine :=
    { surroundings := s, input := p.input, files := files.toArray, pipes := #[], documents := []
      nextDocument := 0, nextProcess := firstProcess + 2, mail := [], busy := p.busy
      context :=
        { name := [], vars, place := p.directory, channels := [(0, .input), (1, out), (2, err)]
          process := firstProcess + 1, root := firstProcess + 1, ancestors := [firstProcess] } }
  let start : Effect Nat := Effect.run depthLimit (.program (p.arguments.map Octets.ofBytes))
  let (result, m) := StateT.run start machine
  let ending := match result with
    | .ok n | .error (.failed n) | .error (.exited n) | .error (.gone n) => WaitStatus.exited n
    | .error (.back n _) => .exited n
    | .error (.killed n) => .killed n
    | .error (.leave ..) => .exited 0
  let signals := (m.mail.filter (·.1 == firstProcess)).map (·.2)
  { surroundings := m.surroundings, input := m.input, ending := .ok ending
    signals := signals.reverse }

end CommandShell.Script
