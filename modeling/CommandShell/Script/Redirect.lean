import CommandShell.Script.Expansion
import CommandShell.Script.Lookup
/-! Where the input and output of commands lead. -/
namespace CommandShell.Script

/-- A redirection whose words have been replaced by what they stand for. -/
inductive Route where
  | file (fd : Nat) (direction : Direction) (path : Octets)
  | duplicate (fd source : Nat)
  | closed (fd : Nat)
  | document (fd number : Nat)

def Route.fd : Route → Nat
  | file fd .. | duplicate fd _ | closed fd | document fd _ => fd

namespace Effect

/-- The cause where a file is there that must not be overwritten. -/
def alreadyThere : Fault := .system ⟨17⟩

/-- How a file is opened, and whether it has to be there already. What is no regular file does not
have to be protected. -/
def openingOf (d : Disk) (c : Context) (direction : Direction) (path : Octets) :
    Except Fault (Disk × OpenFile) × Bool :=
  let name := Octets.toText path
  let create := fun opening => (d.openFile c.place opening name, false)
  match direction with
  | .read => ((d.openToRead c.place name).map fun f => (d, f), true)
  | .overwrite => create .truncate
  | .append => create .append
  | .exchange => create .exchange
  | .write =>
    if !c.isOn .noclobber then create .truncate
    else
      match d.find c.place name with
      | .ok (_, e) =>
        if e.isRegular then (.error alreadyThere, false)
        else (d.openFile c.place .update name, true)
      | .error _ =>
        if (entryAt? d c.place path).isSome then (.error alreadyThere, false)
        else create .truncate

def openPath (direction : Direction) (path : Octets) : Effect Channel := do
  let m ← get
  match openingOf m.surroundings.disk m.context direction path with
  | (.ok (disk, f), _) =>
    set { m with surroundings := { m.surroundings with disk } }
    keepFile f
  | (.error cause, old) =>
    let (verb, missing) :=
      if old then ("open", "No such file") else ("create", "Directory nonexistent")
    fail ("cannot ".toList ++ verb.toList ++ [' '] ++ path ++ ": ".toList ++ reasonFor missing cause)

section
variable (output : Statement → Effect Octets)

def route : Redirection → Effect Route
  | .file fd direction w => do return .file fd direction (← wordText output w)
  | .document fd number => pure (.document fd number)
  | .duplicate fd w => do
    match ← wordText output w with
    | ['-'] => pure (.closed fd)
    | [c] => if isDecimal c then pure (.duplicate fd (c.toNat - '0'.toNat)) else refuse
    | _ => refuse
where
  refuse : Effect Route := do
    amend fun c => { c with line := c.nextLines.headD 1 }
    fail "Syntax error: Bad fd number".toList

def routes : List Redirection → Effect (List Route)
  | [] => pure []
  | r :: rs => do return (← route output r) :: (← routes rs)

/-- Follows a redirection. A descriptor that is to be like itself stays as it is. -/
def follow : Route → Effect Unit
  | .file fd direction path => do
    let ch ← openPath direction path
    amend (·.connect fd ch)
  | .closed fd => amend (·.disconnect fd)
  | .duplicate fd source => do
    if fd ≠ source then
      match (← context).channel? source with
      | some ch => amend (·.connect fd ch)
      | none => fail (decimal source ++ ": Bad file descriptor".toList)
  | .document fd number => do
    let t ← documentText output (((← get).documents.lookup number).getD [])
    let n ← newPipe
    let _ ← writeChannel (some (.pipe n)) t
    amend (·.connect fd (.pipe n))

/-- Follows redirections in turn. Some descriptors have been redirected before. Any other is closed
before it becomes like another one, so that errors may go unheard. -/
def followFrom : List Nat → List Route → Effect Unit
  | _, [] => pure ()
  | before, r :: rs => do
    if let .duplicate fd source := r then
      if fd ≠ source ∧ fd ∉ before then amend (·.disconnect fd)
    follow output r
    followFrom (r.fd :: before) rs

/-- Follows redirections up to the first that is not possible, and tells whether there is none. -/
def followAll (rs : List Route) : Effect Bool :=
  tryCatch (do
    followFrom output [] rs
    pure true) fun stop =>
    match stop with
    | .failed _ => pure false
    | stop => throw stop

end

/-- Runs something after which the descriptors of some redirections are as before. Meanwhile what
was behind them is kept open. -/
def keeping {α : Type} (rs : List Route) (act : Effect α) : Effect α := do
  if rs.isEmpty then act
  else
    let c ← context
    let before := rs.map fun r => (r.fd, c.channel? r.fd)
    amend ({ · with held := before.filterMap (·.2) ++ c.held })
    lastly act <| amend fun d =>
      before.foldl (fun d (fd, ch) =>
        match ch with
        | some ch => d.connect fd ch
        | none => d.disconnect fd) { d with held := c.held }

end Effect
end CommandShell.Script
