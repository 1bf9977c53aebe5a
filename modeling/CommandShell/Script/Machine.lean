import CommandShell.Program.Launch
import CommandShell.Script.Flag
import CommandShell.Script.Syntax
/-! The state of running scripts: what they share with the processes around them, and the context
that each process has for itself. -/
namespace CommandShell.Script

inductive Channel where
  | input
  | output
  | errors
  | file (n : Nat)
  | pipe (n : Nat)
  deriving DecidableEq

/-- Without a value a variable is as good as missing, but what is said of it stays. -/
structure Variable where
  name : Octets
  value : Option Octets
  exported : Bool := false
  readOnly : Bool := false
  deriving DecidableEq

inductive Saved where
  | value (name : Octets) (was : Option Variable)
  | flags (was : List Flag)

/-- A command that nobody waited for when it was started. -/
structure Job where
  number : Nat
  process : Nat
  size : Nat := 1
  ending : WaitStatus
  noticed : Bool := false
  waited : Bool := false
  deriving DecidableEq

/-- Where the next option is looked for among arguments: in which of them, and how far in it. -/
structure OptionPlace where
  index : Nat := 1
  offset : Option Nat := none
  deriving DecidableEq

/-- The place of a program on the search path, found before. It is to be checked again if the
directory has changed since. -/
structure Tracked where
  name : Octets
  index : Nat
  stale : Bool := false
  deriving DecidableEq

/-- What a process has for itself and what its subshells get a copy of. -/
structure Context where
  name : Octets
  command : Option Octets := none
  line : Nat := 0
  /-- The lines that are to be read next, of each script under way, the innermost first. -/
  nextLines : List Nat := [1]
  arguments : List Octets := []
  optionPlace : OptionPlace := {}
  vars : List Variable
  /-- What variables were outside of the commands that have some of their own. -/
  locals : List (List Saved) := []
  functions : List (Octets × Statement) := []
  aliases : List (Octets × Octets) := []
  tracked : List Tracked := []
  flags : List Flag := []
  undecided : List Flag := []
  printed : List Octets := []
  limits : List (Char × Octets) := []
  place : Place
  /-- The directory as it was named, and as it is, if that is known. -/
  directory : Octets := []
  physical : Option Octets := none
  channels : List (Nat × Channel)
  /-- What else is kept open, to be restored later or by others. -/
  held : List Channel := []
  status : Nat := 0
  substituted : Nat := 0
  saved : Option Nat := none
  process : Nat
  root : Nat
  ancestors : List Nat
  background : Option Nat := none
  jobs : List Job := []
  traps : List (Nat × Octets) := []
  ignored : List Nat := []
  arrived : List Nat := []
  loops : Nat := 0
  depth : Nat := 0
  inTrace : Bool := false

/-- Bytes on their way through a pipe: what is read next, and what came later, latest first. -/
structure Pipe where
  front : Bytes := []
  back : List Bytes := []
  deriving DecidableEq

structure Machine where
  surroundings : Surroundings
  input : Intake
  files : Array OpenFile
  pipes : Array Pipe
  documents : List (Nat × Word)
  nextDocument : Nat
  nextProcess : Nat
  mail : List (Nat × Nat)
  busy : List Nat
  context : Context

inductive Stop where
  | failed (status : Nat)
  | exited (status : Nat)
  /-- The process is no more, as another program has run in its place. -/
  | gone (status : Nat)
  | killed (signal : Nat)
  /-- Leaves so many loops, or goes on with the last of them. -/
  | leave (loops : Nat) (again : Bool)
  /-- Leaves a function or a script, perhaps without saying with which status. -/
  | back (status : Nat) (given : Bool)
  deriving DecidableEq

abbrev Effect := ExceptT Stop (StateM Machine)

namespace Pipe

def write (bs : Bytes) (p : Pipe) : Pipe := { p with back := bs :: p.back }

def read (n : Nat) (p : Pipe) : Bytes × Pipe :=
  let front := if p.back.isEmpty then p.front else p.front ++ p.back.reverse.flatten
  (front.take n, ⟨front.drop n, []⟩)

def content (p : Pipe) : Bytes := p.front ++ p.back.reverse.flatten

end Pipe

namespace Context

def isOn (c : Context) (f : Flag) : Bool := c.flags.contains f

def channel? (c : Context) (fd : Nat) : Option Channel := c.channels.lookup fd

def connect (fd : Nat) (ch : Channel) (c : Context) : Context :=
  { c with channels := (fd, ch) :: c.channels.filter (·.1 != fd) }

def disconnect (fd : Nat) (c : Context) : Context :=
  { c with channels := c.channels.filter (·.1 != fd) }

def openChannels (c : Context) : List Channel := c.channels.map (·.2) ++ c.held

/-- The number of a job that is new: the first that is free, or whose job was waited for. -/
def nextJob (c : Context) : Nat :=
  ((List.range (c.jobs.length + 1)).find? fun n =>
    c.jobs.all fun j => j.number != n + 1 || j.waited).getD 0 + 1

/-- Room is made for a new process: the job that has its number is forgotten. -/
def forgetJob (c : Context) : Context :=
  { c with jobs := c.jobs.filter (·.number != c.nextJob) }

def noticeJobs (c : Context) : Context :=
  { c with jobs := c.jobs.map ({ · with noticed := true }) }

/-- The context of a new process below this one. Traps that do something are left behind. -/
def child (process : Nat) (c : Context) : Context :=
  { c with
      process
      ancestors := c.process :: c.ancestors
      held := c.openChannels
      nextLines := c.nextLines.getLast?.toList
      traps := c.traps.filter (·.2.isEmpty)
      arrived := []
      jobs := [] }

def hasTraps (c : Context) : Bool := c.traps.any (!·.2.isEmpty)

end Context

namespace Effect

def context : Effect Context := do return (← get).context

def amend (f : Context → Context) : Effect Unit := modify fun m => { m with context := f m.context }

def disk : Effect Disk := do return (← get).surroundings.disk

def isOn (f : Flag) : Effect Bool := do return (← context).isOn f

/-- Does something at the end, however it comes. -/
def lastly {α : Type} (act : Effect α) (after : Effect Unit) : Effect α := do
  let a ← tryCatch act fun stop => do
    after
    throw stop
  after
  pure a

def writeChannel (ch : Option Channel) (t : Octets) : Effect (Option Fault) := do
  let bs := Octets.toBytes t
  let m ← get
  match ch with
  | some .output =>
    let (surroundings, short) := m.surroundings.writeOutput bs
    set { m with surroundings }
    pure (short.map (·.cause))
  | some .errors =>
    let (surroundings, short) := m.surroundings.writeErrors bs
    set { m with surroundings }
    pure (short.map (·.cause))
  | some (.file n) =>
    match m.files[n]? with
    | some f =>
      let (surroundings, f, short) := m.surroundings.writeFile f bs
      set { m with surroundings, files := m.files.setIfInBounds n f }
      pure (short.map (·.cause))
    | none => pure (some (.system .badDescriptor))
  | some (.pipe n) =>
    set { m with pipes := m.pipes.modify n (·.write bs) }
    pure none
  | _ => pure (some (.system .badDescriptor))

def write (fd : Nat) (t : Octets) : Effect (Option Fault) := do
  writeChannel ((← context).channel? fd) t

/-- Reads up to so many bytes from a channel. There are none at the end. -/
def readChannel (ch : Option Channel) (n : Nat) : Effect (Except Fault Bytes) := do
  let m ← get
  match ch with
  | some .input =>
    let (bs, input) := m.input.read m.surroundings.disk n
    set { m with input }
    pure bs
  | some (.pipe k) =>
    let (bs, p) := (m.pipes[k]?.getD {}).read n
    set { m with pipes := m.pipes.setIfInBounds k p }
    pure (.ok bs)
  | some (.file k) =>
    match m.files[k]? with
    | some f =>
      if f.access = .writing then pure (.error (.system .badDescriptor))
      else
        let (bs, f) := m.surroundings.disk.read f n
        set { m with files := m.files.setIfInBounds k f }
        pure (.ok bs)
    | none => pure (.error (.system .badDescriptor))
  | _ => pure (.error (.system .badDescriptor))

def readByte (fd : Nat) : Effect (Option UInt8) := do
  match ← readChannel ((← context).channel? fd) 1 with
  | .ok (b :: _) => pure (some b)
  | _ => pure none

def keepFile (f : OpenFile) : Effect Channel := do
  let m ← get
  set { m with files := m.files.push f }
  pure (.file m.files.size)

def newPipe : Effect Nat := do
  let m ← get
  set { m with pipes := m.pipes.push {} }
  pure m.pipes.size

def drain (n : Nat) : Effect Octets := do
  let m ← get
  set { m with pipes := m.pipes.setIfInBounds n {} }
  return Octets.ofBytes ((m.pipes[n]?.getD {}).content)

def writing : Effect (List Nat) := do
  let m ← get
  let own := m.context.openChannels.filterMap fun ch =>
    match ch with
    | .file n => (m.files[n]?).bind (·.written?)
    | _ => none
  return own ++ m.busy

def complain (message : Octets) : Effect Unit := do
  let c ← context
  let command := match c.command with
    | some name => name ++ ": ".toList
    | none => []
  let _ ← write 2 (c.name ++ ": ".toList ++ decimal c.line ++ ": ".toList ++ command ++ message ++
    ['\n'])

/-- The reason in a message about a file, where `missing` stands for one that is not there. -/
def reasonFor (missing : String) (f : Fault) : Octets :=
  if f = .system .noEntry ∨ f = .system .notDirectory then missing.toList
  else Octets.ofText f.reason

/-- Output of a command, which is written when the command comes to an end. -/
def print (t : Octets) : Effect Unit := amend fun c => { c with printed := t :: c.printed }

/-- Writes what was printed, and tells whether that went well. -/
def release : Effect (Option Fault) := do
  let t := (← context).printed.reverse.flatten
  amend ({ · with printed := [] })
  if t.isEmpty then pure none else write 1 t

def errorStatus : Nat := 2

/-- An error that ends the interpreter, or only the command if that is an ordinary one. -/
def fail {α : Type} (message : Octets) : Effect α := do
  complain message
  let _ ← release
  amend ({ · with status := errorStatus })
  throw (.failed errorStatus)

def illegalNumber {α : Type} (t : Octets) : Effect α := fail ("Illegal number: ".toList ++ t)

def ordinal (t : Octets) (read : Octets → Option Nat) : Effect Nat := do
  match read t with
  | some n => pure n
  | none => illegalNumber t

/-- A command as which errors are reported while it runs. -/
def named {α : Type} (name : Octets) (act : Effect α) : Effect α := do
  let before := (← context).command
  amend ({ · with command := some name })
  lastly act (amend ({ · with command := before }))

end Effect
end CommandShell.Script
