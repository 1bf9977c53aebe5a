import CommandShell.Script.Directory
import CommandShell.Script.Fields
import CommandShell.Script.Format
import CommandShell.Script.Signal
/-! The built-in commands that run no other commands. -/
namespace CommandShell.Script.Effect

/-! ## Text -/

def echoCommand (args : List Octets) : Effect Nat := do
  print (echoText args)
  pure 0

def printfCommand (args : List Octets) : Effect Nat := do
  match ← operands args with
  | [] => fail "usage: printf format [arg ...]".toList
  | format :: args =>
    let p := printText format args
    p.misfits.forM complain
    print p.text
    match p.refusal with
    | some message => fail message
    | none => pure (if p.misfits.isEmpty then 0 else 1)

/-- The segments of a line. Unless the line is raw, a backslash keeps the next character from
separating fields, and joins lines. The characters of the segment under way come latest first. -/
def readLine (raw : Bool) : Nat → Octets → Effect (List Segment × Bool)
  | 0, t => pure ([loose t], false)
  | n + 1, t => do
    match ← readByte 0 with
    | none => pure ([loose t], false)
    | some b =>
      let c := Char.ofNat b.toNat
      if b = 0 then readLine raw n t
      else if c = '\n' then pure ([loose t], true)
      else if raw || c ≠ '\\' then readLine raw n (c :: t)
      else
        match ← escaped n with
        | none => pure ([loose t], false)
        | some d =>
          let quoted := if d = '\n' then [] else [Segment.ofText true [d]]
          let (rest, ended) ← readLine raw n []
          pure (loose t :: quoted ++ rest, ended)
where
  loose (t : Octets) : Segment := .ofText false t.reverse
  escaped : Nat → Effect (Option Char)
    | 0 => pure none
    | n + 1 => do
      match ← readByte 0 with
      | none => pure none
      | some b => if b = 0 then escaped n else pure (some (Char.ofNat b.toNat))

/-- Variables get values, as long as there are some. The others become empty. -/
def assignEach : List Octets → List Octets → Effect Unit
  | [], _ => pure ()
  | name :: names, values => do
    assign name (values.headD [])
    assignEach names values.tail

/-- More characters than any line has. -/
def lineLimit : Nat := 1000000000

def readCommand (args : List Octets) : Effect Nat := do
  let s ← switches [('p', true), ('r', false)] args
  if s.rest.isEmpty then fail "arg count".toList
  let (segments, ended) ← readLine (s.has 'r') lineLimit []
  let fields := splitFields (← context).separators (some s.rest.length) segments
  assignEach s.rest (fields.map fun as => Glyphs.text (Atoms.glyphs as))
  pure (if ended then 0 else 1)

/-! ## Arguments and flags -/

structure FoundOption where
  letter : Char := '?'
  /-- The value of the variable for arguments, or that it has none. Without this it stays. -/
  argument : Option (Option Octets) := none
  message : Octets := []
  place : OptionPlace
  done : Bool := false

/-- The option at a place among arguments. The first letter of what is allowed may ask to keep
silent. -/
def findOption (allowed : Octets) (args : List Octets) (p : OptionPlace) : FoundOption :=
  let current := (args[p.index - 2]?).getD []
  let left := match p.offset with
    | some n => if p.index ≤ 1 then [] else current.drop n
    | none => []
  if !left.isEmpty then letterOf p.index left
  else
    match args[p.index - 1]? with
    | some ['-', '-'] => { place := { index := p.index + 1 }, done := true }
    | some ('-' :: c :: t) => letterOf (p.index + 1) (c :: t)
    | _ => { place := { index := p.index }, done := true }
where
  silent : Bool := allowed.head? = some ':'
  letterOf (index : Nat) : Octets → FoundOption
    | [] => { place := { index }, done := true }
    | c :: t =>
      let length := ((args[index - 2]?).getD []).length
      let within : OptionPlace := { index, offset := some (length - t.length) }
      match takesArgument? c allowed with
      | none => misuse c within "Illegal option -" "" '?'
      | some false => { letter := c, argument := some (some []), place := within }
      | some true =>
        if !t.isEmpty then { letter := c, argument := some (some t), place := { index } }
        else
          match args[index - 1]? with
          | some a => { letter := c, argument := some (some a), place := { index := index + 1 } }
          | none => misuse c { index } "No arg for -" " option" ':'
  misuse (c : Char) (place : OptionPlace) (before after : String) (sign : Char) : FoundOption :=
    if silent then { letter := sign, argument := some (some [c]), place }
    else
      { argument := some none, message := before.toList ++ c :: after.toList ++ ['\n'], place }
  takesArgument? (c : Char) : Octets → Option Bool
    | [] => none
    | d :: t => if d = c then some (t.head? = some ':') else
      match t with
      | ':' :: u => takesArgument? c u
      | t => takesArgument? c t

def getoptsCommand (args : List Octets) : Effect Nat := do
  match args with
  | allowed :: name :: rest =>
    let c ← context
    let own := if rest.isEmpty then c.arguments else rest
    let p := if c.optionPlace.index > own.length + 1 then {} else c.optionPlace
    let found := findOption allowed own p
    if !found.message.isEmpty then
      let _ ← write 2 found.message
    amend ({ · with optionPlace := {} })
    match found.argument with
    | some (some t) => assign "OPTARG".toList t
    | some none => unset "OPTARG".toList
    | none => pure ()
    assign "OPTIND".toList (decimal found.place.index)
    assign name [found.letter]
    amend ({ · with optionPlace := found.place })
    pure (if found.done then 1 else 0)
  | _ => fail "Usage: getopts optstring var [arg...]".toList

def setArguments (arguments : List Octets) : Effect Unit :=
  amend ({ · with arguments, optionPlace := {} })

def shiftCommand (args : List Octets) : Effect Nat := do
  let n ← match args with
    | [] => pure 1
    | a :: _ => ordinal a ordinal?
  let c ← context
  if c.arguments.length < n then fail "can't shift that many".toList
  setArguments (c.arguments.drop n)
  pure 0

/-- One of two flags for editing leaves the other. -/
def setFlag (f : Flag) (on : Bool) : Effect Unit := amend fun c =>
  let flags := Flags.set f on c.flags
  { c with
    undecided := c.undecided.erase f
    flags :=
      if !on then flags
      else match f with
        | .vi => Flags.set .emacs false flags
        | .emacs => Flags.set .vi false flags
        | _ => flags }

/-- Sets the flags of letters. A name of a flag is among the arguments. Letters that are none of
flags but known are given back, with the arguments left. -/
def setLetters (known : Octets) (on : Bool) : Octets → List Octets → Effect (Octets × List Octets)
  | [], args => pure ([], args)
  | 'o' :: t, args => do
    match args with
    | [] =>
      let c ← context
      let flags := c.flags ++ c.undecided
      print (if on then Flags.table flags else Flags.commands flags)
      setLetters known on t []
    | name :: rest =>
      match Flag.ofName? name with
      | some f =>
        setFlag f on
        setLetters known on t rest
      | none => fail ("Illegal option -o ".toList ++ name)
  | c :: t, args => do
    if known.contains c then
      let (cs, rest) ← setLetters known on t args
      return (c :: cs, rest)
    match Flag.ofLetter? c with
    | some f =>
      setFlag f on
      setLetters known on t args
    | none => fail ("Illegal option -".toList ++ [c])

inductive FlagsEnd where
  | dash
  | dashes
  | argument
  deriving DecidableEq

/-- Sets flags as the first arguments say. Gives back the letters that are none of flags, what ended
it all, and the arguments left. -/
def setFlags (known : Octets) : Nat → List Octets → Effect (Octets × FlagsEnd × List Octets)
  | 0, args => pure ([], .argument, args)
  | n + 1, args => do
    let letters := fun (on : Bool) (t : Octets) (rest : List Octets) => do
      let (cs, rest) ← setLetters known on t rest
      let (more, end_, rest) ← setFlags known n rest
      return (cs ++ more, end_, rest)
    match args with
    | ['-'] :: rest => pure ([], .dash, rest)
    | ['-', '-'] :: rest => pure ([], .dashes, rest)
    | ('-' :: t) :: rest => letters true t rest
    | ('+' :: t) :: rest => letters false t rest
    | rest => pure ([], .argument, rest)

/-- Jobs are under control only where there is a terminal. A subshell does not care. -/
def dropMonitor : Effect Unit := do
  let c ← context
  if c.isOn .monitor && c.process = c.root then
    complain "can't access tty; job control turned off".toList
    setFlag .monitor false

def setCommand (args : List Octets) : Effect Nat := do
  if args.isEmpty then
    print ((← context).listing "" (·.value.isSome))
    return 0
  let (_, end_, rest) ← setFlags [] (args.length + 1) args
  if end_ = .dash then
    setFlag .xtrace false
    setFlag .verbose false
  if end_ = .dashes ∧ rest.isEmpty then setArguments []
  dropMonitor
  if !rest.isEmpty then setArguments rest
  return 0

/-! ## Variables -/

def markVariables (exported readOnly : Bool) : List Octets → Effect Unit
  | [] => pure ()
  | arg :: rest => do
    let (name, value) := splitAssignment arg
    match (← context).find? arg with
    | some v =>
      amend (·.put
        { v with exported := v.exported || exported, readOnly := v.readOnly || readOnly })
    | none =>
      checkName name
      putVariable { name, value, exported, readOnly }
    markVariables exported readOnly rest

def markCommand (name : String) (readOnly : Bool) (args : List Octets) : Effect Nat := do
  let names ← if Switches.startWith 'p' args then pure [] else operands args
  if names.isEmpty then
    print ((← context).listing name fun v => if readOnly then v.readOnly else v.exported)
  else markVariables (!readOnly) readOnly names
  pure 0

def unsetCommand (args : List Octets) : Effect Nat := do
  let s ← switches [('v', false), ('f', false)] args
  if (s.given.getLast?.map (·.1)) == some 'f' then
    amend fun c => { c with functions := c.functions.filter fun f => !s.rest.contains f.1 }
  else s.rest.forM unset
  pure 0

def localCommand (args : List Octets) : Effect Nat := do
  if (← context).locals.isEmpty then fail "not in a function".toList
  args.forM (makeLocal · false)
  pure 0

/-! ## Leaving -/

/-- Without an argument a trap leaves with the status from before. -/
def exitCommand (args : List Octets) : Effect Nat := do
  match args with
  | [] =>
    let c ← context
    throw (.exited (c.saved.getD c.status))
  | a :: _ => throw (.exited (← ordinal a ordinal?))

def returnCommand (args : List Octets) : Effect Nat := do
  match args with
  | [] => throw (.back (← context).status false)
  | a :: _ => throw (.back (← ordinal a ordinal?) true)

/-- Leaves as many loops as there are, but not more. -/
def leaveCommand (again : Bool) (args : List Octets) : Effect Nat := do
  let n ← match args with
    | [] => pure 1
    | a :: _ => ordinal a fun t => (ordinal? t).filter (0 < ·)
  let n := min n (← context).loops
  if 0 < n then throw (.leave n again)
  pure 0

/-! ## Limits -/

structure Limit where
  letter : Char
  name : String
  usual : String

def limits : List Limit :=
  [⟨'t', "time(seconds)", "unlimited"⟩, ⟨'f', "file(blocks)", "unlimited"⟩,
   ⟨'d', "data(kbytes)", "unlimited"⟩, ⟨'s', "stack(kbytes)", "8192"⟩,
   ⟨'c', "coredump(blocks)", "0"⟩, ⟨'m', "memory(kbytes)", "unlimited"⟩,
   ⟨'l', "locked memory(kbytes)", "8192"⟩, ⟨'p', "process", "unlimited"⟩,
   ⟨'n', "nofiles", "20000"⟩, ⟨'v', "vmemory(kbytes)", "unlimited"⟩,
   ⟨'w', "locks", "unlimited"⟩, ⟨'r', "rtprio", "0"⟩]

def limitLetters : List (Char × Bool) := "HSatfdscmlpnvwr".toList.map (·, false)

def limitCommand (args : List Octets) : Effect Nat := do
  let s ← switches limitLetters args
  let set := (← context).limits
  let value := fun l : Limit => (set.lookup l.letter).getD l.usual.toList
  let letters := (s.given.map (·.1)).filter fun c => !"HSa".toList.contains c
  let letter := letters.getLast?.getD 'f'
  match s.rest with
  | [] =>
    if s.has 'a' then
      limits.forM fun l => print (Octets.padded 20 l.name.toList ++ [' '] ++ value l ++ ['\n'])
    else
      (limits.filter (·.letter == letter)).forM fun l => print (value l ++ ['\n'])
  | t :: rest =>
    if s.has 'a' || !rest.isEmpty then fail "too many arguments".toList
    if t ≠ "unlimited".toList ∧ !t.all isDecimal then fail "bad number".toList
    amend fun c => { c with limits := (letter, t) :: c.limits }
  pure 0

/-- No time is spent at all. -/
def timesCommand (_args : List Octets) : Effect Nat := do
  let line := "0m0.000000s 0m0.000000s\n".toList
  print (line ++ line)
  pure 0

/-- What the built-in command of a name does. Those that run other commands are not among them. -/
def builtin? (name : Octets) : Option (List Octets → Effect Nat) :=
  match String.ofList name with
  | ":" | "true" => some fun _ => pure 0
  | "false" => some fun _ => pure 1
  | "[" => some bracketCommand
  | "alias" => some aliasCommand
  | "bg" | "fg" => some resumeCommand
  | "break" => some (leaveCommand false)
  | "cd" | "chdir" => some changeDirectory
  | "command" => some commandCommand
  | "continue" => some (leaveCommand true)
  | "echo" => some echoCommand
  | "exit" => some exitCommand
  | "export" => some (markCommand "export" false)
  | "getopts" => some getoptsCommand
  | "hash" => some hashCommand
  | "jobs" => some jobsCommand
  | "kill" => some killCommand
  | "local" => some localCommand
  | "printf" => some printfCommand
  | "pwd" => some printDirectory
  | "read" => some readCommand
  | "readonly" => some (markCommand "readonly" true)
  | "return" => some returnCommand
  | "set" => some setCommand
  | "shift" => some shiftCommand
  | "test" => some testCommand
  | "times" => some timesCommand
  | "trap" => some trapCommand
  | "type" => some typeCommand
  | "ulimit" => some limitCommand
  | "umask" => some maskCommand
  | "unalias" => some unaliasCommand
  | "unset" => some unsetCommand
  | "wait" => some waitCommand
  | _ => none

end CommandShell.Script.Effect
