import CommandShell.Script.Machine
import CommandShell.Script.Numeral
/-! The variables of scripts. -/
namespace CommandShell.Script

/-- What separates fields unless a variable says so. -/
def usualSeparators : Octets := [' ', '\t', '\n']

namespace Context

def find? (c : Context) (name : Octets) : Option Variable := c.vars.find? (·.name == name)

def value? (c : Context) (name : Octets) : Option Octets := (c.find? name).bind (·.value)

def valueOf (c : Context) (name : String) : Octets := (c.value? name.toList).getD []

def put (v : Variable) (c : Context) : Context :=
  { c with vars := v :: c.vars.filter (·.name != v.name) }

def drop (name : Octets) (c : Context) : Context :=
  { c with vars := c.vars.filter (·.name != name) }

def environment (c : Context) : Environment :=
  Environment.extend [] (c.vars.filterMap fun v =>
    match v.exported, v.value with
    | true, some value => some (Octets.toBytes v.name, Octets.toBytes value)
    | _, _ => none)

def separators (c : Context) : Octets := (c.value? "IFS".toList).getD usualSeparators

/-- Variables that match, one on each line after a command that would set them. -/
def listing (command : String) (p : Variable → Bool) (c : Context) : Octets :=
  let lead := if command = "" then [] else command.toList ++ [' ']
  ((c.vars.filter p).mergeSort fun u v => Octets.inOrder u.name v.name).flatMap fun v =>
    lead ++ v.name ++ (match v.value with
      | some value => ['='] ++ Octets.quoted value
      | none => []) ++ ['\n']

end Context

/-- A name and the value after its first sign of equality. -/
def splitAssignment (t : Octets) : Octets × Option Octets :=
  match Octets.cut? '=' t with
  | some (name, value) => (name, some value)
  | none => (t, none)

namespace Effect

/-- What else a new value of a variable changes. -/
def afterChange (name : Octets) (value : Option Octets) : Effect Unit := do
  if name = "PATH".toList then amend ({ · with tracked := [] })
  else if name = "OPTIND".toList then
    let n ← match value with
      | some t => ordinal t ordinal?
      | none => pure 0
    amend ({ · with optionPlace := { index := max n 1 } })

/-- A variable gets a value, or none, besides what is said of it already. -/
def putVariable (v : Variable) : Effect Unit := do
  let c ← context
  let old := c.find? v.name
  if old.any (·.readOnly) then fail (v.name ++ ": is read only".toList)
  afterChange v.name v.value
  amend (·.put
    { v with exported := v.exported || old.any (·.exported) || c.isOn .allexport })

def checkName (name : Octets) : Effect Unit := do
  if !Octets.isName name then fail (name ++ ": bad variable name".toList)

/-- Sets a variable. What follows a sign of equality in the name does not matter. -/
def assign (name value : Octets) : Effect Unit := do
  let name := (splitAssignment name).1
  checkName name
  putVariable { name, value := some value }

def unset (name : Octets) : Effect Unit := do
  let name := (splitAssignment name).1
  checkName name
  let old := (← context).find? name
  if old.any (·.readOnly) then fail (name ++ ": is read only".toList)
  afterChange name none
  amend (·.drop name)

def save (s : Saved) : Effect Unit := amend fun c =>
  match c.locals with
  | ss :: rest => { c with locals := (s :: ss) :: rest }
  | [] => c

/-- A variable becomes local. It keeps its value unless it gets one. -/
def makeLocal (t : Octets) (exported : Bool) : Effect Unit := do
  let c ← context
  if t = ['-'] then save (.flags c.flags)
  else
    let (name, value) := splitAssignment t
    let old := c.find? name
    match value with
    | some _ =>
      putVariable { name, value, exported }
    | none =>
      if old.isNone then
        checkName name
        amend (·.put { name, value := none, exported })
    save (.value name old)

def restoreSaved : List Saved → Effect Unit
  | [] => pure ()
  | .flags was :: rest => do
    amend ({ · with flags := was })
    restoreSaved rest
  | .value name was :: rest => do
    match was with
    | some v => amend (·.put v)
    | none =>
      checkName name
      amend (·.drop name)
    let value := was.bind (·.value)
    afterChange name (value.filter fun t => (ordinal? t).isSome)
    restoreSaved rest

/-- Brings back what was there before the innermost commands with variables of their own, until only
so many of them are left. -/
def unwindLocals (depth : Nat) : Effect Unit := do
  let c ← context
  let count := c.locals.length - depth
  amend ({ · with locals := c.locals.drop count })
  restoreSaved (c.locals.take count).flatten

/-- Runs something that may have variables of its own. If it ends the process, or an error does, they
are still there at the end. -/
def withLocals {α : Type} (act : Effect α) : Effect α := do
  let depth := (← context).locals.length
  amend fun c => { c with locals := [] :: c.locals }
  let a ← tryCatch act fun stop => do
    match stop with
    | .back .. | .leave .. => unwindLocals depth
    | _ => pure ()
    throw stop
  unwindLocals depth
  pure a

end Effect
end CommandShell.Script
