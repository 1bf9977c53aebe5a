import CommandShell.Script.Condition
import CommandShell.Script.Grammar
import CommandShell.Script.Variables
/-! What the name of a command stands for: a function, a built-in command or a program, whose place
on the search path is remembered. -/
namespace CommandShell.Script

def ordinaryCommands : List Octets :=
  ["alias", "bg", "cd", "chdir", "command", "echo", "false", "fg", "getopts", "hash", "jobs",
   "kill", "printf", "pwd", "read", "test", "[", "true", "type", "ulimit", "umask", "unalias",
   "wait"].map String.toList

def isBuiltin (name : Octets) : Bool := isSpecialCommand name || ordinaryCommands.contains name

def assignsArguments (name : Octets) : Bool :=
  ["alias", "export", "local", "readonly"].any (·.toList == name)

/-- Where programs are searched for if it does not matter what variables say. -/
def standardPath : Octets := "/usr/local/sbin:/usr/local/bin:/usr/sbin:/usr/bin:/sbin:/bin".toList

/-- A name below each directory of a path, of which an empty one stands for the working
directory. -/
def pathsOf (path name : Octets) : List Octets :=
  (path.splitOn ':').map fun dir => if dir.isEmpty then name else dir ++ ['/'] ++ name

/-- Names in the order of a table with so many rows, which new ones are put at the end of. -/
def tableOrder {α : Type} (rows : Nat) (name : α → Octets) (items : List α) : List α :=
  let row := fun item =>
    let t := name item
    ((t.headD '\x00').toNat * 16 + t.foldl (fun n c => n + c.toNat) 0) % 32768 % rows
  items.mergeSort fun a b => row a ≤ row b

inductive Kind where
  | function (body : Statement)
  | builtin
  /-- A program in a directory of the search path, or at a path of its own. -/
  | program (index : Option Nat)
  | unknown (cause : Fault)

/-- The first of some paths, with its number, where there is a program. Otherwise the cause why none
of the files there is one. -/
def firstProgram (d : Disk) (place : Place) :
    List (Octets × Nat) → Fault → Except Fault Nat
  | [], cause => .error cause
  | (path, index) :: rest, cause =>
    match d.find place (Octets.toText path) with
    | .ok (_, e) =>
      if e.isExecutable then .ok index else firstProgram d place rest (.system .accessDenied)
    | .error f =>
      let missing := f = .system .noEntry ∨ f = .system .notDirectory
      firstProgram d place rest (if missing then cause else f)

namespace Context

def searchPath (c : Context) : Octets := c.valueOf "PATH"

def forget (name : Octets) (c : Context) : Context :=
  { c with tracked := c.tracked.filter (·.name != name) }

def track (name : Octets) (index : Nat) (c : Context) : Context :=
  if c.tracked.any (·.name == name) then
    { c with
      tracked := c.tracked.map fun t => if t.name == name then { name, index } else t }
  else { c with tracked := c.tracked ++ [{ name, index }] }

/-- The places on the search path are to be looked at again, as the directory is another one. -/
def staleTracks (c : Context) : Context :=
  { c with tracked := c.tracked.map ({ · with stale := true }) }

end Context

namespace Effect

/-- Looks a program up on the usual search path or on another one. Only on the usual one is it
remembered where it was. -/
def findProgram (path : Option Octets) (name : Octets) : Effect Kind := do
  let c ← context
  let d ← disk
  let known := if path.isSome then none else c.tracked.find? (·.name == name)
  let paths := (pathsOf (path.getD c.searchPath) name).zipIdx
  let absolute := fun p : Octets × Nat => p.1.head? = some '/'
  match known with
  | some t =>
    if !t.stale then return .program (some t.index)
    if paths.any fun p => p.2 = t.index && absolute p then
      amend (·.track name t.index)
      return .program (some t.index)
  | none => pure ()
  let skipped := fun p : Octets × Nat => known.any fun t => absolute p && p.2 < t.index
  match firstProgram d c.place (paths.filter (!skipped ·)) (.system .noEntry) with
  | .ok index =>
    if path.isNone then amend (·.track name index)
    return .program (some index)
  | .error cause =>
    if path.isNone then amend (·.forget name)
    return .unknown cause

/-- What a name stands for. Functions may be left out. -/
def kindOf (path : Option Octets) (functions : Bool) (name : Octets) : Effect Kind := do
  if name.contains '/' then return .program none
  let c ← context
  let body := if functions then c.functions.lookup name else none
  match body with
  | some s => pure (.function s)
  | none => if isBuiltin name then pure .builtin else findProgram path name

/-- The arguments with which an interpreter runs for a program, found at the first of some paths
where that can be. A file that is no program is taken for a script. -/
def programArguments (paths : List Octets) (fields : List Octets) :
    Effect (Except Fault (List Octets)) := do
  let c ← context
  let d ← disk
  let busy ← writing
  let long := fields.any (argumentLimit ≤ ·.length + 1) ||
    c.environment.any fun (n, v) => argumentLimit ≤ n.length + v.length + 2
  let start := fun path =>
    if long then .error (.system .argumentsTooLong)
    else
      match d.execute c.place busy interpreterDepth (Octets.toBytes path)
          (fields.map Octets.toBytes) with
      | .ok args => .ok (args.map Octets.ofBytes)
      | .error f =>
        if f = .system .notExecutable then .ok ("/bin/sh".toList :: path :: fields.tail)
        else .error f
  pure (tryEach start paths (.system .noEntry))
where
  tryEach (start : Octets → Except Fault (List Octets)) :
      List Octets → Fault → Except Fault (List Octets)
    | [], cause => .error cause
    | p :: ps, cause =>
      match start p with
      | .ok args => .ok args
      | .error f =>
        tryEach start ps (if f = .system .noEntry ∨ f = .system .notDirectory then cause else f)

def launchStatus (f : Fault) : Nat :=
  if [Errno.noEntry, .notDirectory, .nameTooLong, .linkLoop].any (f = .system ·) then 127 else 126

/-! ## Commands that tell what a name stands for -/

def aliasLine (name text : Octets) : Octets := name ++ ['='] ++ Octets.quoted text ++ ['\n']

/-- Tells what a name stands for, in a sentence or with as much as a command needs. -/
def describe (path : Option Octets) (sentence : Bool) (name : Octets) : Effect Nat := do
  let c ← context
  let say := fun (verbose brief : Octets) => do
    print (if sentence then name ++ verbose ++ ['\n'] else brief ++ ['\n'])
    return 0
  let missing := do
    if sentence then print (name ++ ": not found\n".toList)
    return 127
  if keywords.contains name then return ← say " is a shell keyword".toList name
  if let some text := c.aliases.lookup name then
    if sentence then return ← say (" is an alias for ".toList ++ text) []
    print ("alias ".toList ++ aliasLine name text)
    return 0
  let tracked := if path.isSome then none else c.tracked.find? (·.name == name)
  let kind ← match tracked with
    | some t => pure (.program (some t.index))
    | none => kindOf path true name
  match kind with
  | .function _ => say " is a shell function".toList name
  | .builtin =>
    let special := if isSpecialCommand name then "special ".toList else []
    say (" is a ".toList ++ special ++ "shell builtin".toList) name
  | .program none =>
    match (← disk).find c.place (Octets.toText name) with
    | .ok _ => say (" is ".toList ++ name) name
    | .error _ => missing
  | .program (some index) =>
    let place := (pathsOf (path.getD c.searchPath) name)[index]?.getD name
    let verb := if tracked.isSome then " is a tracked alias for " else " is "
    say (verb.toList ++ place) place
  | .unknown _ => missing

def typeCommand : List Octets → Effect Nat
  | [] => pure 0
  | name :: rest => do
    let status ← describe none true name
    let others ← typeCommand rest
    pure (status ||| others)

/-- Without a switch that asks for it nothing is said, and nothing is run either. -/
def commandCommand (args : List Octets) : Effect Nat := do
  let s ← switches [('p', false), ('v', false), ('V', false)] args
  let path := if s.has 'p' then some standardPath else none
  match s.rest with
  | name :: _ => if s.has 'v' || s.has 'V' then describe path (s.has 'V') name else pure 0
  | [] => pure 0

def trackAll : List Octets → Nat → Effect Nat
  | [], status => pure status
  | name :: rest, status => do
    amend (·.forget name)
    match ← kindOf none true name with
    | .unknown cause =>
      complain (name ++ ": ".toList ++ reasonFor "not found" cause)
      trackAll rest 1
    | _ => trackAll rest status

def hashCommand (args : List Octets) : Effect Nat := do
  let s ← switches [('r', false)] args
  let c ← context
  if s.has 'r' then
    amend ({ · with tracked := [] })
    return 0
  if s.rest.isEmpty then
    (tableOrder 31 (·.name) c.tracked).forM fun t => do
      let place := (pathsOf c.searchPath t.name)[t.index]?.getD t.name
      print (place ++ (if t.stale then ['*'] else []) ++ ['\n'])
    return 0
  trackAll s.rest 0

/-! ## Aliases -/

def setAlias (name text : Octets) : Effect Unit := amend fun c =>
  if (c.aliases.lookup name).isSome then
    { c with aliases := c.aliases.map fun a => if a.1 == name then (name, text) else a }
  else { c with aliases := c.aliases ++ [(name, text)] }

/-- Sets aliases or shows them. The first sign of equality that counts is not the first
character. -/
def aliasesFrom : List Octets → Nat → Effect Nat
  | [], status => pure status
  | arg :: rest, status => do
    match Octets.cut? '=' arg.tail with
    | some (t, text) =>
      setAlias (arg.take 1 ++ t) text
      aliasesFrom rest status
    | none =>
      match (← context).aliases.lookup arg with
      | some text =>
        print (aliasLine arg text)
        aliasesFrom rest status
      | none =>
        let _ ← write 2 ("alias: ".toList ++ arg ++ " not found\n".toList)
        aliasesFrom rest 1

def aliasCommand (args : List Octets) : Effect Nat := do
  if args.isEmpty then
    (tableOrder 39 (·.1) (← context).aliases).forM fun (name, text) => print (aliasLine name text)
    pure 0
  else aliasesFrom args 0

def dropAliases : List Octets → Nat → Effect Nat
  | [], status => pure status
  | name :: rest, status => do
    if ((← context).aliases.lookup name).isSome then
      amend fun c => { c with aliases := c.aliases.filter (·.1 != name) }
      dropAliases rest status
    else
      let _ ← write 2 ("unalias: ".toList ++ name ++ " not found\n".toList)
      dropAliases rest 1

def unaliasCommand (args : List Octets) : Effect Nat := do
  if Switches.startWith 'a' args then
    amend ({ · with aliases := [] })
    pure 0
  else dropAliases (← operands args) 0

end Effect
end CommandShell.Script
