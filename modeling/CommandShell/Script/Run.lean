import CommandShell.Script.Builtin
import CommandShell.Script.Process
/-! Running statements. Every step down, into a statement, a function or another program, uses up
one of a given number, so that every script comes to an end. -/
namespace CommandShell.Script

/-- The words of a command as far as its name is known. -/
structure Naming where
  fields : List Octets
  /-- How many of them only say how the command is to be looked up. -/
  skipped : Nat := 0
  rest : List Word
  path : Option Octets := none
  functions : Bool := true
  /-- Whether errors of the command are fatal, if it is known yet. -/
  special : Option Bool := none

namespace Naming

def name (n : Naming) : Octets := (n.fields[n.skipped]?).getD []

/-- The command with its arguments. -/
def command (n : Naming) : List Octets := n.fields.drop n.skipped

end Naming

/-- How many functions may be under way in one another. -/
def functionLimit : Nat := 1000

/-- More rounds than any loop has. -/
def roundLimit : Nat := 1000000000000

namespace Effect

def blockSize : Nat := 8192

def refuse {α : Type} (misfit : Misfit) : Effect α := do
  amend ({ · with line := misfit.line })
  fail ("Syntax error: ".toList ++ misfit.message)

/-- What a script does after it was left in a loop, if that ends here. -/
def afterLoop (stop : Stop) : Effect Bool :=
  match stop with
  | .leave n again => if n ≤ 1 then pure again else throw (.leave (n - 1) again)
  | stop => throw stop

def within (act : Effect Nat) : Effect Nat := do
  let before := (← context).nextLines
  amend ({ · with nextLines := 1 :: before })
  lastly act (amend ({ · with nextLines := before }))

section
variable (again : Task → Effect Nat)

def loopBody (s : Statement) (tested : Bool) : Effect (Nat × Bool) :=
  tryCatch (do return (← again (.statement s false tested), true)) fun stop => do
    return (0, ← afterLoop stop)

/-- One round of a loop after another. The status is that of the last body. -/
def rounds (wanted : Bool) (test body : Statement) (tested : Bool) : Nat → Nat → Effect Nat
  | 0, _ => throw (.killed Signal.kill)
  | n + 1, status => do
    let outcome ← tryCatch (do
      let t ← again (.statement test false true)
      return some (t == 0)) fun stop => do
        return if ← afterLoop stop then none else some !wanted
    match outcome with
    | none => rounds wanted test body tested n status
    | some b =>
      if b ≠ wanted then return status
      let (status, more) ← loopBody again body tested
      if more then rounds wanted test body tested n status else pure status

def eachValue (name : Octets) (body : Statement) (tested : Bool) : List Octets → Nat → Effect Nat
  | [], status => pure status
  | v :: vs, _ => do
    assign name v
    let (status, more) ← loopBody again body tested
    if more then eachValue name body tested vs status else pure status

def looping {α : Type} (act : Effect α) : Effect α := do
  let before := (← context).loops
  amend ({ · with loops := before + 1 })
  lastly act (amend ({ · with loops := before }))

def select (value : Octets) (last tested : Bool) :
    List (List Word × Statement) → Effect Nat
  | [] => pure 0
  | (patterns, s) :: arms => do
    if ← fitsAny patterns then
      if s.isNothing then pure 0 else again (.statement s last tested)
    else select value last tested arms
where
  fitsAny : List Word → Effect Bool
    | [] => pure false
    | p :: ps => do
      if patternFits (← patternOf (capture again) p) value then pure true else fitsAny ps

/-! ## Commands -/

/-- The fields of the first words that give any, and the words after them. -/
def firstFields : List Word → Effect (List Octets × List Word)
  | [] => pure ([], [])
  | w :: ws => do
    let fields ← fieldsOf (capture again) w
    if fields.isEmpty then firstFields ws else pure (fields, ws)

/-- Makes sure that there is one more field, and tells whether there is. -/
def extend (n : Naming) (index : Nat) : Effect (Option Naming) := do
  if index < n.fields.length then return some n
  let (fields, rest) ← firstFields again n.rest
  return if fields.isEmpty then none else some { n with fields := n.fields ++ fields, rest }

/-- Goes past the command that only says how another one is to be looked up, unless it has
something to say itself. -/
def skipCommand : Nat → Naming → Nat → Effect (Option Naming)
  | 0, _, _ => pure none
  | fuel + 1, n, index => do
    let some n ← extend again n index | return none
    let found := some { n with skipped := index, functions := false }
    match (n.fields[index]?).getD [] with
    | ['-', '-'] =>
      let some n ← extend again n (index + 1) | return none
      return some { n with skipped := index + 1, functions := false }
    | '-' :: c :: t =>
      if (c :: t).all (· == 'p') then
        skipCommand fuel { n with path := some standardPath } (index + 1)
      else return none
    | _ => return found

/-- What a name stands for as long as no program is looked for. -/
def kindWithin (functions : Bool) (name : Octets) : Effect (Option Kind) := do
  let c ← context
  if name.contains '/' then return none
  match if functions then c.functions.lookup name else none with
  | some s => return some (.function s)
  | none => return if isBuiltin name then some .builtin else none

/-- Finds out what the name of a command stands for as long as no program is looked for. -/
def resolve : Nat → Naming → Effect (Naming × Option Kind)
  | 0, n => pure (n, none)
  | fuel + 1, n => do
    let kind ← kindWithin n.functions n.name
    match kind with
    | some .builtin =>
      let n := { n with special := n.special.or (some (isSpecialCommand n.name)) }
      if n.name ≠ "command".toList then return (n, kind)
      match ← skipCommand again (n.rest.length + n.fields.length + 1) n (n.skipped + 1) with
      | some n => resolve fuel n
      | none => return (n, kind)
    | _ => return (n, kind)

/-- The fields of the words that are left. Where a command sets variables, what looks like an
assignment is not split. -/
def restFields (assigns : Bool) : List Word → Effect (List Octets)
  | [] => pure []
  | w :: ws => do
    let fields ←
      if assigns && Word.isAssignment w then do pure [← assignmentText (capture again) w]
      else fieldsOf (capture again) w
    return fields ++ (← restFields assigns ws)

/-- Sets variables in front of a command: for the command alone, or for good. -/
def assignAll (alone exported : Bool) : List Word → Effect (List Octets)
  | [] => pure []
  | w :: ws => do
    let t ← assignmentText (capture again) w
    if alone then makeLocal t true
    else
      let (name, value) := splitAssignment t
      putVariable { name, value, exported }
    return t :: (← assignAll alone exported ws)

/-- The text that a variable holds for the front of lines. What cannot be replaced in it stays. -/
def promptOf (name : String) : Effect Octets := do
  let m ← get
  let t := m.context.valueOf name
  let reader : Reader :=
    { rest := t, line := 1, aliases := [], nextDocument := m.nextDocument }
  match Parse.promptText.run.run reader with
  | (.ok w, r) =>
    set { m with documents := r.documents ++ m.documents, nextDocument := r.nextDocument }
    tryCatch (documentText (capture again) w) fun stop =>
      match stop with
      | .failed _ => pure t
      | stop => throw stop
  | (.error misfit, _) =>
    tryCatch (refuse misfit) fun _ => pure t

/-- Shows the words of a command before it is run. -/
def trace (ch : Option Channel) (words : List Octets) : Effect Unit := do
  let c ← context
  if c.isOn .xtrace && !c.inTrace then
    amend ({ · with inTrace := true })
    let t ← lastly (promptOf again "PS4") (amend ({ · with inTrace := false }))
    let _ ← writeChannel ch (t ++ Octets.unwords words ++ ['\n'])

def call (body : Statement) (arguments : List Octets) (tested : Bool) : Effect Nat := do
  let c ← context
  if functionLimit ≤ c.depth then
    fail ("Maximum function recursion depth (".toList ++ decimal functionLimit ++
      ") reached".toList)
  amend ({ · with arguments, optionPlace := {}, loops := 0, depth := c.depth + 1 })
  lastly (tryCatch (again (.statement body false tested)) fun stop =>
    match stop with
    | .back n _ => pure n
    | stop => throw stop)
    (amend ({ · with
      arguments := c.arguments, optionPlace := c.optionPlace, loops := c.loops
      depth := c.depth }))

/-- Runs a script in place, up to where it is left. -/
def dotCommand (args : List Octets) : Effect Nat := do
  match ← operands args with
  | [] => pure 0
  | name :: _ =>
    let c ← context
    let d ← disk
    let isScript := fun path =>
      match d.find c.place (Octets.toText path) with
      | .ok (_, e) => e.isRegular
      | .error _ => false
    let path ←
      if name.contains '/' then pure name
      else
        match (pathsOf c.searchPath name).find? isScript with
        | some path => pure path
        | none => fail (name ++ ": not found".toList)
    let ch ← openPath .read path
    amend fun c => { c with command := some path, held := ch :: c.held }
    tryCatch (within (again (.channel ch))) fun stop =>
      match stop with
      | .back n _ => pure n
      | stop => throw stop

def execCommand (args : List Octets) : Effect Nat := do
  match args with
  | [] => pure 0
  | fields =>
    let name := fields.headD []
    let c ← context
    let paths := if name.contains '/' then [name] else pathsOf c.searchPath name
    replaceProcess again paths fields fun status => throw (.exited status)

def builtinAct (name : Octets) (args : List Octets) (tested : Bool) : Effect Nat := do
  match String.ofList name with
  | "eval" => again (.text (Octets.unwords args) tested)
  | "." => dotCommand again args
  | "exec" => execCommand again args
  | _ =>
    match builtin? name with
    | some act => act args
    | none => pure 127

def runBuiltin (name : Octets) (args : List Octets) (tested : Bool) : Effect Nat :=
  named name do
    let status ← builtinAct again name args tested
    match ← release with
    | none => pure status
    | some _ =>
      complain (name ++ ": I/O error".toList)
      pure (status ||| 1)

def programPaths (n : Naming) (index : Option Nat) : Effect (List Octets) := do
  match index with
  | none => pure [n.name]
  | some k => return (pathsOf (n.path.getD (← context).searchPath) n.name).drop k

/-- Runs a program in a process of its own, or in this one if that has nothing else to do. -/
def runProgram (n : Naming) (index : Option Nat) (last : Bool) : Effect Nat := do
  let paths ← programPaths n index
  if last && !(← context).hasTraps then
    replaceProcess again paths n.command fun status => throw (.exited status)
  else apart again (replaceProcess again paths n.command pure)

def runCommand (n : Naming) (kind : Option Kind) (last tested : Bool) : Effect Nat := do
  let args := n.command.tail
  let kind ← match kind with
    | some k => pure k
    | none => kindOf n.path n.functions n.name
  match kind with
  | .function body => call again body args tested
  | .builtin =>
    let depth := (← context).locals.length
    tryCatch (runBuiltin again n.name args tested) fun stop =>
      match stop with
      | .failed status => do
        if n.special = some true then throw stop
        unwindLocals depth
        pure status
      | stop => throw stop
  | .program index => runProgram again n index last
  | .unknown cause =>
    complain (n.name ++ ": ".toList ++ reasonFor "not found" cause)
    pure 127

/-- Sets variables where there is no command. The status is that of the last commands whose output
was used. -/
def runAssignments (errors : Option Channel) (assignments : List Word) : Effect Nat := do
  let texts ← assignAll again false false assignments
  trace again errors texts
  return (← context).substituted

def simple (line : Nat) (assignments words : List Word) (redirections : List Redirection)
    (last tested : Bool) : Effect Nat := do
  amend ({ · with line, substituted := 0 })
  let (fields, rest) ← firstFields again words
  let errors := (← context).channel? 2
  if fields.isEmpty then
    let routes ← routes (capture again) redirections
    return ← keeping routes do
      if ← followAll (capture again) routes then runAssignments again errors assignments
      else pure errorStatus
  let (n, kind) ← resolve again (words.length + fields.length + 1) { fields, rest }
  let builtin := match kind with
    | some .builtin => true
    | _ => false
  let others ← restFields again (builtin && assignsArguments n.name) n.rest
  let n := { n with fields := n.fields ++ others, rest := [] }
  let special := n.special = some true
  let replaces := builtin && n.name = "exec".toList
  let act := do
    let routes ← routes (capture again) redirections
    let body := do
      if !(← followAll (capture again) routes) then
        if special then throw (.failed errorStatus)
        return errorStatus
      let texts ← assignAll again (!special) (replaces && 1 < n.command.length) assignments
      trace again errors (texts ++ n.fields)
      runCommand again n kind last tested
    if replaces then body else keeping routes body
  if special then act else withLocals act

/-! ## Statements -/

/-- Runs commands in a process of their own, or in this one if that has nothing else to do. -/
def subshell (line : Nat) (s : Statement) (redirections : List Redirection) (last tested : Bool) :
    Effect Nat := do
  amend ({ · with line })
  let routes ← routes (capture again) redirections
  let body := do
    routes.forM (follow (capture again))
    again (.statement s true tested)
  if last && !(← context).hasTraps then body else apart again body

/-- A failure that nobody looks at may end the interpreter. -/
def endIfFailed (status : Nat) (tested : Bool) : Effect Unit := do
  if status ≠ 0 && !tested && (← isOn .errexit) then throw (.exited status)

/-- What a statement does, and whether its failure can end the interpreter. -/
def act (s : Statement) (last tested : Bool) : Effect (Nat × Bool) := do
  let sub := fun (s : Statement) (tested : Bool) => again (.statement s false tested)
  match s with
  | .nothing => return ((← context).status, false)
  | .simple line assignments words redirections =>
    let status ← tryCatch (simple again line assignments words redirections last tested) fun stop =>
      match stop with
      | .back status _ => do
        endIfFailed status tested
        throw stop
      | stop => throw stop
    return (status, true)
  | .sequence a b =>
    let _ ← sub a tested
    return (← again (.statement b last tested), false)
  | .both a b =>
    let status ← sub a true
    if status ≠ 0 then return (status, false)
    return (← again (.statement b last tested), false)
  | .either a b =>
    let status ← sub a true
    if status = 0 then return (status, false)
    return (← again (.statement b last tested), false)
  | .negation a => return (if (← sub a true) = 0 then 1 else 0, false)
  | .pipeline parts background => return (← pipeline again background tested parts, true)
  | .redirected line a redirections =>
    amend ({ · with line })
    let routes ← routes (capture again) redirections
    keeping routes do
      if ← followAll (capture again) routes then return (← sub a tested, false)
      return (errorStatus, true)
  | .subshell line a redirections =>
    return (← subshell again line a redirections last tested, true)
  | .background a redirections =>
    let routes ← routes (capture again) redirections
    let status ← detach again do
      routes.forM (follow (capture again))
      again (.statement a true false)
    return (status, true)
  | .choice test yes no =>
    let status ← sub test true
    let next := if status = 0 then yes else no
    if next.isNothing then return (0, false)
    return (← again (.statement next last tested), false)
  | .loop wanted test body =>
    return (← looping (rounds again wanted test body tested roundLimit 0), false)
  | .each line name words body =>
    amend ({ · with line })
    let values ← allFields (capture again) words
    return (← looping (eachValue again name body tested values 0), false)
  | .select line word arms =>
    amend ({ · with line })
    let value ← wordText (capture again) word
    return (← select again value last tested arms, false)
  | .define name body =>
    amend fun c => { c with functions := (name, body) :: c.functions.filter (·.1 != name) }
    return (0, false)

/-- Runs a statement. Traps have their turn before it and after it. -/
def runStatement (s : Statement) (last tested : Bool) : Effect Nat := do
  if ← isOn .noexec then return (← context).status
  settle again
  let (status, counts) ← act again s last tested
  amend ({ · with status })
  settle again
  if counts then endIfFailed status tested
  return status

/-! ## Scripts -/

/-- What can be read next of a script, in a state of the machine. -/
def attempt (m : Machine) (r : Reader) : Except Misfit Statement × Reader :=
  Parse.nextLine.run.run
    { r with
      aliases := m.context.aliases, nextDocument := m.nextDocument, documents := []
      exhausted := false }

def accept : Except Misfit Statement × Reader → Effect Statement
  | (.ok s, r) => do
    modify fun m => { m with
      documents := r.documents ++ m.documents, nextDocument := r.nextDocument }
    amend fun c => { c with nextLines := r.line :: c.nextLines.tail }
    pure s
  | (.error misfit, _) => refuse misfit

/-- Runs the rest of a text, whose status so far is given. -/
def textFrom (tested : Bool) : Nat → Reader → Nat → Effect Nat
  | 0, _, status => pure status
  | n + 1, r, status => do
    let read := attempt (← get) r
    let r := read.2
    let s ← accept read
    let status ←
      if s.isNothing then pure status
      else again (.statement s false tested)
    if r.atEnd then pure status else textFrom tested n r status

def readerOf (t : Octets) : Reader := { rest := t, line := 1, aliases := [], nextDocument := 0 }

def runText (source : Octets) (tested : Bool) : Effect Nat :=
  within (textFrom again tested roundLimit (readerOf source) 0)

/-- The next piece of a script, without bytes that are zero. None is left at the end. -/
def nextBlock (ch : Option Channel) : Effect Octets := do
  match ← readChannel (ch.or ((← context).channel? 0)) blockSize with
  | .ok bs => pure (Octets.ofBytes bs)
  | .error _ => pure []

structure Feed where
  channel : Option Channel
  reader : Reader
  ended : Bool := false

/-- Reads as much of a script as the next statements need, and those. The feed is still before
them. -/
def readAhead : Nat → Feed → Effect (Feed × (Except Misfit Statement × Reader))
  | 0, f => return (f, attempt (← get) f.reader)
  | n + 1, f => do
    let read := attempt (← get) f.reader
    if f.ended || !read.2.exhausted then return (f, read)
    let block ← nextBlock f.channel
    let rest := f.reader.rest ++ block.filter (· != '\x00')
    readAhead n { f with reader := { f.reader with rest }, ended := block.isEmpty }

/-- The text that was read between two moments, up to the end of its last line. -/
def linesUpTo (before after : Reader) : Octets :=
  let t := before.rest.take (before.rest.length - after.rest.length)
  if t.isEmpty ∨ t.getLast? = some '\n' then t
  else
    let rest := after.rest.takeWhile (· != '\n')
    t ++ rest ++ (after.rest.drop rest.length).take 1

/-- Lines as they are shown while they are read, if they are shown, with a prompt after some. -/
def echoed (shown : Bool) (prompt : Octets) : Nat → Octets → Octets
  | _, [] => []
  | prompts, c :: t =>
    let own := if shown then [c] else []
    if c = '\n' ∧ prompts ≠ 0 then own ++ prompt ++ echoed shown prompt (prompts - 1) t
    else own ++ echoed shown prompt prompts t

/-- Shows what an interactive interpreter shows about lines that it reads, or only those lines. -/
def showLines (prompting : Bool) (before after : Reader) : Effect Unit := do
  let shown ← isOn .verbose
  let t := linesUpTo before after
  if prompting then
    let first ← promptOf again "PS1"
    let next ← promptOf again "PS2"
    let ends := if after.last = .newline then 1 else 0
    let _ ← write 2 (first ++ echoed shown next (after.line - before.line - ends) t)
  else if shown then
    let _ ← write 2 t

/-- How often the end of the input is not taken for the end of a session. -/
def farewellLimit : Nat := 50

def farewell (prompting : Bool) : Effect Unit := do
  let prompt ← if prompting then promptOf again "PS1" else pure []
  if ← isOn .ignoreeof then
    let advice := "\nUse \"exit\" to leave shell.\n".toList ++ prompt
    let _ ← write 2 (List.replicate farewellLimit advice).flatten
  else if prompting then
    let _ ← write 2 ['\n']

/-- Goes on after an error if that only ends the statement under way. -/
def survive (stop : Stop) : Effect Unit := do
  let c ← context
  match stop with
  | .failed _ =>
    if !(c.isOn .interactive && c.process = c.root) then throw stop
    unwindLocals 0
  | _ => throw stop

/-- Runs the rest of a script, whose status so far is given. After an error an interactive
interpreter goes on with what it has not yet read of the script. -/
def feedFrom (outermost : Bool) : Nat → Feed → Nat → Effect Nat
  | 0, _, status => pure status
  | n + 1, f, status => do
    let prompting := outermost && (← isOn .interactive)
    let (f, read) ← readAhead roundLimit f
    let reader := read.2
    showLines again prompting f.reader reader
    let next ← tryCatch (do
      let s ← accept read
      if !s.isNothing then return some (← again (.statement s false false), reader)
      return if reader.atEnd && f.ended then none else some (status, reader)) fun stop => do
        if !outermost then throw stop
        survive stop
        return some (errorStatus, { reader with rest := [], layers := [] })
    match next with
    | some (status, reader) => feedFrom outermost n { f with reader } status
    | none =>
      if outermost then farewell again prompting
      return status

/-- Runs a script from a channel or from the input. It is the outermost one of its interpreter, or in
the middle of another. -/
def runChannel (outermost : Bool) (channel : Option Channel) : Effect Nat :=
  feedFrom again outermost roundLimit { channel, reader := readerOf [] } 0

end
end Effect
end CommandShell.Script
