import CommandShell.Script.Word
/-! Statements. A script is read one line at a time, or rather as many lines as one statement on the
first of them goes on for. -/
namespace CommandShell.Script

/-- What counts for the next token: whether newlines are gone past, and whether a word may be a
keyword or an alias. -/
structure Seek where
  newlines : Bool := false
  keywords : Bool := false
  aliases : Bool := false

/-- A place where a command may begin, on this line or a later one. -/
def Seek.command : Seek := { newlines := true, keywords := true, aliases := true }

/-- The same on this line. -/
def Seek.sameLine : Seek := { keywords := true, aliases := true }

inductive Extent where
  | line
  | compound
  | optional
  deriving DecidableEq

inductive Goal where
  | commands (extent : Extent)
  | bracketed
  | command (seek : Seek)

def keywords : List Octets :=
  ["!", "case", "do", "done", "elif", "else", "esac", "fi", "for", "if", "in", "then", "until",
   "while", "\x7b", "\x7d"].map String.toList

/-- Commands whose errors end the interpreter. -/
def specialCommands : List Octets :=
  [".", ":", "break", "continue", "eval", "exec", "exit", "export", "local", "readonly", "return",
   "set", "shift", "times", "trap", "unset"].map String.toList

def isSpecialCommand (name : Octets) : Bool := specialCommands.contains name

namespace Token

def isKeyword (name : String) : Token → Bool
  | keyword k => k == name.toList
  | _ => false

def description : Token → Octets
  | word => "word".toList
  | redirection .. => "redirection".toList
  | keyword name => ['"'] ++ name ++ ['"']
  | newline => "newline".toList
  | semicolon => "\";\"".toList
  | ampersand => "\"&\"".toList
  | both => "\"&&\"".toList
  | either => "\"||\"".toList
  | pipe => "\"|\"".toList
  | opening => "\"(\"".toList
  | closing => "\")\"".toList
  | armEnd => "\";;\"".toList
  | endOfFile => "end of file".toList

/-- Whether a list of commands may end before a token. -/
def endsCommands : Token → Bool
  | endOfFile | closing | armEnd => true
  | keyword k =>
    ["do", "done", "elif", "else", "esac", "fi", "then", "\x7d"].any (·.toList == k)
  | _ => false

end Token

namespace Parse

/-- The last token is out of place here, where perhaps another was expected. -/
def unexpected {α : Type} (expected : Option Token) : Parse α := do
  let tail := match expected with
    | none => []
    | some t => " (expecting ".toList ++ t.description ++ ")".toList
  refuse ((← get).last.description ++ " unexpected".toList ++ tail)

def comment : Nat → Parse Unit
  | 0 => pure ()
  | n + 1 => do
    match ← peek with
    | none | some '\n' => pure ()
    | some _ =>
      skip
      comment n

/-- The sign of a redirection, and the descriptor that it is for unless another is given. -/
def arrow : Parse (Nat × Arrow) := do
  if ← accept '>' then
    if ← accept '>' then return (1, .file .append)
    if ← accept '|' then return (1, .file .overwrite)
    if ← accept '&' then return (1, .duplicate)
    return (1, .file .write)
  else
    skip
    if ← accept '<' then return (0, .document (← accept '-'))
    if ← accept '&' then return (0, .duplicate)
    if ← accept '>' then return (0, .file .exchange)
    return (0, .file .read)

section
variable (sub : Goal → Parse Statement)

def wordOf (role : Role) : Parse Draft :=
  readWord (sub (.commands .optional)) (sub .bracketed) role

def documents : Parse Unit := readDocuments (sub (.commands .optional)) (sub .bracketed)

/-- A word, or a redirection if only a digit is between it and what came before. -/
def wordToken (role : Role) : Parse Token := do
  let d ← wordOf sub role
  let next ← look
  if (next = some '>' ∨ next = some '<') ∧ !d.quoted then
    match d.pieces with
    | [] =>
      let (fd, a) ← arrow
      return .redirection fd a
    | [.char c _] =>
      if isDecimal c then
        let (_, a) ← arrow
        return .redirection (decimalValue [c]) a
    | _ => pure ()
  modify fun r => { r with word := d.pieces.reverse, quoted := d.quoted }
  return .word

def scan (role : Role) : Nat → Parse Token
  | 0 => pure .endOfFile
  | n + 1 => do
    match ← look with
    | none => pure .endOfFile
    | some c =>
      if Octets.isBlank c then
        skip
        scan role n
      else match c with
        | '#' =>
          comment stepLimit
          scan role n
        | '\n' =>
          skip
          countLine
          pure .newline
        | '&' =>
          skip
          return if ← accept '&' then .both else .ampersand
        | '|' =>
          skip
          return if ← accept '|' then .either else .pipe
        | ';' =>
          skip
          return if ← accept ';' then .armEnd else .semicolon
        | '(' =>
          skip
          pure .opening
        | ')' =>
          skip
          pure .closing
        | _ => wordToken sub role

/-- The token that was pushed back, or else the next one. -/
def rawToken (role : Role) : Parse Token := do
  let r ← get
  if r.pushedBack then
    set { r with pushedBack := false }
    pure r.last
  else
    let t ← scan sub role stepLimit
    modify ({ · with last := t })
    pure t

/-- Goes past newlines, after which documents may come. -/
def tokenAfterNewlines (role : Role) : Nat → Parse Token
  | 0 => pure .endOfFile
  | n + 1 => do
    match ← rawToken sub role with
    | .newline =>
      documents sub
      tokenAfterNewlines role n
    | t => pure t

/-- The next token. The text of an alias is read instead of its name. -/
def tokenFrom (role : Role) (seek : Seek) : Nat → Bool → Parse Token
  | 0, _ => pure .endOfFile
  | n + 1, aliases => do
    let t ← if seek.newlines then tokenAfterNewlines sub role stepLimit else rawToken sub role
    let r ← get
    let aliases := aliases || r.onward
    set { r with onward := false }
    if t ≠ .word ∨ r.quoted then return t
    match Word.literal? r.word with
    | none => return t
    | some name =>
      if seek.keywords && keywords.contains name then
        let t := Token.keyword name
        modify ({ · with last := t })
        return t
      else if !aliases then return t
      else match r.alias? name with
        | none => return t
        | some text =>
          if !text.isEmpty then modify (·.pushAlias name text)
          tokenFrom role seek n aliases

def token (seek : Seek) : Parse Token := tokenFrom sub .word seek stepLimit seek.aliases

def expect (t : Token) : Parse Unit := do
  if (← token sub {}) ≠ t then unexpected (some t)

def expectKeyword (name : String) (seek : Seek) : Parse Unit := do
  let t := Token.keyword name.toList
  if (← token sub seek) ≠ t then unexpected (some t)

/-- The target of a redirection. A document is announced. -/
def redirectionOf (fd : Nat) (a : Arrow) : Parse Redirection := do
  let role := match a with
    | .document _ => Role.delimiter
    | _ => .word
  if (← tokenFrom sub role {} stepLimit false) ≠ .word then unexpected none
  let r ← get
  match a with
  | .file direction => return .file fd direction r.word
  | .duplicate => return .duplicate fd r.word
  | .document stripped =>
    let number := r.nextDocument
    let p : Pending := ⟨number, Word.text r.word, stripped, r.quoted⟩
    set { r with nextDocument := number + 1, pending := r.pending ++ [p] }
    return .document fd number

def redirections : Nat → Seek → Parse (List Redirection)
  | 0, _ => pure []
  | n + 1, seek => do
    match ← token sub seek with
    | .redirection fd a =>
      let r ← redirectionOf sub fd a
      return r :: (← redirections n {})
    | _ =>
      pushBack
      pure []

def words : Nat → Parse (List Word)
  | 0 => pure []
  | n + 1 => do
    match ← token sub {} with
    | .word =>
      let w := (← get).word
      return w :: (← words n)
    | _ => pure []

/-- What a simple command consists of, latest first. -/
structure Parts where
  assignments : List Word := []
  words : List Word := []
  redirections : List Redirection := []

/-- The name of a function whose definition begins so. -/
def Parts.function? (p : Parts) : Option Word :=
  match p with
  | ⟨[], [w], []⟩ => some w
  | _ => none

def definition (w : Word) : Parse Statement := do
  expect sub .closing
  match (Word.literal? w).filter fun name => Octets.isName name && !isSpecialCommand name with
  | none => refuse "Bad function name".toList
  | some name => return .define name (← sub (.command .command))

def simpleFrom (line : Nat) : Nat → Parts → Parse Statement
  | 0, _ => pure .nothing
  | n + 1, p => do
    match ← token sub { aliases := p.words.isEmpty } with
    | .word =>
      let w := (← get).word
      if p.words.isEmpty && Word.isAssignment w then
        simpleFrom line n { p with assignments := w :: p.assignments }
      else simpleFrom line n { p with words := w :: p.words }
    | .redirection fd a =>
      let r ← redirectionOf sub fd a
      simpleFrom line n { p with redirections := r :: p.redirections }
    | .opening =>
      match p.function? with
      | some w => definition sub w
      | none => finish p
    | _ => finish p
where
  finish (p : Parts) : Parse Statement := do
    pushBack
    return .simple line p.assignments.reverse p.words.reverse p.redirections.reverse

def choice : Nat → Parse Statement
  | 0 => pure .nothing
  | n + 1 => do
    let test ← sub (.commands .compound)
    expectKeyword sub "then" {}
    let yes ← sub (.commands .compound)
    match ← token sub {} with
    | .keyword ['e', 'l', 'i', 'f'] => return .choice test yes (← choice n)
    | .keyword ['e', 'l', 's', 'e'] => return .choice test yes (← sub (.commands .compound))
    | _ =>
      pushBack
      return .choice test yes .nothing

def loop (wanted : Bool) : Parse Statement := do
  let test ← sub (.commands .compound)
  expectKeyword sub "do" {}
  return .loop wanted test (← sub (.commands .compound))

def each (line : Nat) : Parse Statement := do
  let t ← token sub {}
  let r ← get
  match (Word.literal? r.word).filter fun name => t = .word ∧ !r.quoted ∧ Octets.isName name with
  | none => refuse "Bad for loop variable".toList
  | some name =>
    let values ←
      match ← token sub .command with
      | .keyword ['i', 'n'] =>
        let values ← words sub stepLimit
        let last := (← get).last
        if last ≠ .newline ∧ last ≠ .semicolon then unexpected none
        pure values
      | .semicolon => pure [Word.arguments]
      | _ =>
        pushBack
        pure [Word.arguments]
    expectKeyword sub "do" .command
    return .each line name values (← sub (.commands .compound))

/-- Patterns with bars between them. Any token may stand where a pattern should. -/
def patterns : Nat → Parse (List Word)
  | 0 => pure []
  | n + 1 => do
    let w := (← get).word
    match ← token sub {} with
    | .pipe =>
      let _ ← token sub {}
      return w :: (← patterns n)
    | _ => return [w]

def arms : Nat → Parse (List (List Word × Statement))
  | 0 => pure []
  | n + 1 => do
    let seek : Seek := { newlines := true, keywords := true }
    let t ← token sub seek
    if t.isKeyword "esac" then return []
    if t = .opening then
      let _ ← token sub {}
    let ps ← patterns sub stepLimit
    if (← get).last ≠ .closing then unexpected (some .closing)
    let body ← sub (.commands .optional)
    let t ← token sub seek
    if t.isKeyword "esac" then return [(ps, body)]
    if t ≠ .armEnd then unexpected (some .armEnd)
    return (ps, body) :: (← arms n)

def select (line : Nat) : Parse Statement := do
  if (← token sub {}) ≠ .word then unexpected (some .word)
  let w := (← get).word
  expectKeyword sub "in" .command
  return .select line w (← arms sub stepLimit)

/-- Redirections behind a compound command. -/
def withRedirections (line : Nat) (s : Statement) : Parse Statement := do
  let rs ← redirections sub stepLimit .sameLine
  return match rs, s with
    | [], s => s
    | rs, .subshell line a _ => .subshell line a rs
    | rs, s => .redirected line s rs

def command (seek : Seek) : Parse Statement := do
  let line := (← get).line
  let compound := fun (s : Parse Statement) (end_ : Option Token) => do
    let a ← s
    if let some t := end_ then
      if (← token sub {}) ≠ t then unexpected (some t)
    withRedirections sub line a
  match ← token sub seek with
  | .keyword name =>
    let word := fun (k : String) => some (Token.keyword k.toList)
    match String.ofList name with
    | "if" => compound (choice sub stepLimit) (word "fi")
    | "while" => compound (loop sub true) (word "done")
    | "until" => compound (loop sub false) (word "done")
    | "for" => compound (each sub line) (word "done")
    | "case" => compound (select sub line) none
    | "\x7b" => compound (sub (.commands .compound)) (word "\x7d")
    | _ => unexpected none
  | .opening =>
    compound (do return .subshell line (← sub (.commands .compound)) []) (some .closing)
  | .word | .redirection .. =>
    pushBack
    simpleFrom sub (← get).line stepLimit {}
  | _ => unexpected none

def pipelineRest : Nat → Parse (List Statement)
  | 0 => pure []
  | n + 1 => do
    if (← token sub {}) = .pipe then
      let s ← command sub .command
      return s :: (← pipelineRest n)
    else
      pushBack
      pure []

def pipeline (seek : Seek) : Parse Statement := do
  let negated := (← token sub seek).isKeyword "!"
  if !negated then pushBack
  let first ← command sub (if negated then .sameLine else {})
  let rest ← pipelineRest sub stepLimit
  let s := if rest.isEmpty then first else .pipeline (first :: rest) false
  return if negated then .negation s else s

def conditionFrom : Nat → Statement → Parse Statement
  | 0, s => pure s
  | n + 1, a => do
    match ← token sub {} with
    | .both => conditionFrom n (.both a (← pipeline sub .command))
    | .either => conditionFrom n (.either a (← pipeline sub .command))
    | _ =>
      pushBack
      pure a

def condition : Parse Statement := do conditionFrom sub stepLimit (← pipeline sub {})

def commandsFrom (extent : Extent) : Nat → Bool → Statement → Parse Statement
  | 0, _, s => pure s
  | n + 1, mayEnd, s => do
    match ← token sub { Seek.command with newlines := extent ≠ .line } with
    | .newline =>
      documents sub
      pure s
    | .endOfFile => atEnd s
    | t =>
      pushBack
      if mayEnd && extent ≠ .line && t.endsCommands then return s
      let a ← condition sub
      let t ← token sub {}
      let a := if t = .ampersand then a.unattended else a
      let s := if s.isNothing then a else .sequence s a
      match t with
      | .endOfFile => atEnd s
      | .newline =>
        pushBack
        commandsFrom extent n true s
      | .ampersand | .semicolon => commandsFrom extent n true s
      | _ =>
        if extent = .line then unexpected none
        pushBack
        pure s
where
  atEnd (s : Statement) : Parse Statement := do
    documents sub
    modify ({ · with last := .endOfFile })
    pushBack
    pure s

def ofGoal : Goal → Parse Statement
  | .commands extent => commandsFrom sub extent stepLimit (extent = .optional) .nothing
  | .bracketed => do
    let s ← commandsFrom sub .optional stepLimit true .nothing
    expect sub .closing
    pure s
  | .command seek => command sub seek

end

/-- What can be read with so many statements in one another. -/
def ofGoalAt : Nat → Goal → Parse Statement
  | 0, _ => refuse "statements are nested too deeply".toList
  | n + 1, g => ofGoal (ofGoalAt n) g

/-- How many statements may be in one another. -/
def nestingLimit : Nat := 10000

/-- A text in which parameters and the output of commands take their places. Quotes mean nothing, and
no line ends it. -/
def promptText : Parse Word := do
  let endless : Pending :=
    { number := 0, delimiter := ['\n'], stripped := false, verbatim := false }
  let d ← wordOf (ofGoalAt nestingLimit) (.document endless)
  return d.pieces.reverse

def nextLine : Parse Statement := do
  modify ({ · with pushedBack := false, pending := [] })
  ofGoalAt nestingLimit (.commands .line)

end Parse

/-- Whether a script was over after the last line. -/
def Reader.atEnd (r : Reader) : Bool := r.pushedBack && r.last = .endOfFile

end CommandShell.Script
