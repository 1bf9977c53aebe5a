import CommandShell.Script.Reader
/-! Reading words. Quotes, parameters in braces and arithmetic may be nested in each other; what
counts in one of them is kept in a frame of its own where the rules change. -/
namespace CommandShell.Script

inductive Setting where
  | plain
  | single
  | double
  | arithmetic
  deriving DecidableEq

/-- The rules for the next character. -/
structure Frame where
  setting : Setting
  quotes : Bool
  /-- The braces that were opened here, and those of them that were opened in quotes. -/
  braces : Nat := 0
  quotedBraces : Nat := 0
  inner : Bool := false
  braced : Bool := false
  parens : Nat := 0
  deriving DecidableEq

/-- What becomes of the pieces between brackets. -/
inductive Bracket where
  | edited (name : Octets) (strict : Bool) (edit : Edit) (quoted : Bool)
  | length (name : Octets) (quoted : Bool)
  | misshapen
  | arithmetic (quoted : Bool)

def Bracket.piece (content : Word) : Bracket → Piece
  | edited name strict edit quoted => .edited name strict edit content quoted
  | length name quoted => .length name quoted
  | misshapen => .misshapen
  | arithmetic quoted => .arithmetic content quoted

structure Draft where
  pieces : List Piece := []
  brackets : List (Bracket × List Piece) := []
  frame : Frame
  frames : List Frame := []
  quoted : Bool := false
  closed : Bool := false

inductive Role where
  | word
  | delimiter
  | document (p : Pending)

def Role.isDocument : Role → Bool
  | document _ => true
  | _ => false

def Role.isDelimiter : Role → Bool
  | delimiter => true
  | _ => false

def isSpecialParameter (c : Char) : Bool := "#?$!-*@".toList.contains c

/-- The characters that end a word. -/
def isMeta (c : Char) : Bool := Octets.isBlank c || "\n;&|<>()".toList.contains c

namespace Draft

def add (p : Piece) (d : Draft) : Draft := if d.closed then d else { d with pieces := p :: d.pieces }

def char (c : Char) (quoted : Bool) (d : Draft) : Draft := d.add (.char c quoted)

def amend (f : Frame → Frame) (d : Draft) : Draft := { d with frame := f d.frame }

def mark (r : Role) (d : Draft) : Draft := if r.isDocument then d else d.add .mark

def toggle (d : Draft) : Draft :=
  d.amend fun f => if f.braces = 0 then f else { f with inner := !f.inner }

def openQuotes (r : Role) (setting : Setting) (d : Draft) : Draft :=
  match setting with
  | .double => ((d.amend ({ · with setting, quotes := true })).toggle).mark r
  | _ => (d.amend ({ · with setting })).mark r

def closeQuotes (r : Role) (d : Draft) : Draft :=
  let double := d.frame.setting = .double
  let d := d.amend fun f =>
    if f.quotedBraces = 0 then { f with setting := .plain, quotes := false } else f
  let d := { d with quoted := true }
  (if double then d.toggle else d).mark r

def openBracket (b : Bracket) (d : Draft) : Draft :=
  { d with brackets := (b, d.pieces) :: d.brackets, pieces := [] }

/-- What closes no bracket ends the word. -/
def closeBracket (d : Draft) : Draft :=
  match d.brackets with
  | [] => { d with closed := true }
  | (b, before) :: brackets =>
    { d with brackets, pieces := if d.closed then before else b.piece d.pieces.reverse :: before }

def pushFrame (f : Frame) (d : Draft) : Draft := { d with frame := f, frames := d.frame :: d.frames }

def popFrame (d : Draft) : Draft :=
  match d.frames with
  | [] => d
  | frame :: frames => { d with frame, frames }

/-- A brace was opened, after which other rules may hold. -/
def openBrace (setting : Setting) (d : Draft) : Draft :=
  let setting := if setting = .arithmetic then .double else setting
  let d :=
    if setting ≠ d.frame.setting ∨ d.frame.inner then
      d.pushFrame { setting, quotes := setting ≠ .plain, braced := true }
    else d
  d.amend fun f =>
    { f with braces := f.braces + 1, quotedBraces := f.quotedBraces + if f.quotes then 1 else 0 }

def closeBrace (d : Draft) : Draft :=
  let f := d.frame
  let d :=
    if f.braces = 1 ∧ f.braced then d.popFrame
    else { d with frame := { f with braces := f.braces - 1, quotedBraces := f.quotedBraces - 1 } }
  d.closeBracket

end Draft

/-- The name of a parameter, and what is done to it. -/
inductive Shape where
  | whole (name : Octets)
  | loose (name : Octets)
  | edited (name : Octets) (strict : Bool) (edit : Edit)
  | length (name : Octets)
  | misshapen

namespace Parse

def takeWhile (p : Char → Bool) : Nat → Octets → Parse Octets
  | 0, acc => pure acc.reverse
  | n + 1, acc => do
    match ← look with
    | some c =>
      if p c then
        skip
        takeWhile p n (c :: acc)
      else pure acc.reverse
    | none => pure acc.reverse

def parameterName : Parse Octets := do
  match ← look with
  | some c =>
    if Octets.isNameStart c then takeWhile Octets.isNameChar stepLimit []
    else if isDecimal c then takeWhile isDecimal stepLimit []
    else pure []
  | none => pure []

/-- The end of a parameter in braces, after its name. -/
def shapeOf (name : Octets) : Parse Shape := do
  let strict ← accept ':'
  match ← look with
  | none => pure .misshapen
  | some c =>
    if !strict && (c == '%' || c == '#') then
      skip
      let longest ← accept c
      pure (.edited name false (if c = '%' then .trimEnd longest else .trimStart longest))
    else
      skip
      match c with
      | '\x7d' => pure (if strict then .loose name else .whole name)
      | '-' => pure (.edited name strict .fallback)
      | '+' => pure (.edited name strict .instead)
      | '?' => pure (.edited name strict .demand)
      | '=' => pure (.edited name strict .assign)
      | _ => pure .misshapen

/-- The end of a length, after the name. The brace that closes it is left. -/
def lengthOf (name : Octets) : Parse Shape := do
  if (← look) = some '\x7d' then pure (.length name) else pure .misshapen

def bracedShape : Parse Shape := do
  match ← parameterName with
  | c :: name => shapeOf (c :: name)
  | [] =>
    match ← look with
    | none | some '\x7d' => pure .misshapen
    | some '#' =>
      skip
      match ← parameterName with
      | c :: name => lengthOf (c :: name)
      | [] =>
        match ← look with
        | none => pure .misshapen
        | some c =>
          let before ← get
          skip
          if c ≠ '\x7d' ∧ (← look) = some '\x7d' then
            if isSpecialParameter c then lengthOf [c] else pure .misshapen
          else
            modify fun r => { before with exhausted := r.exhausted }
            shapeOf ['#']
    | some c =>
      skip
      if isSpecialParameter c then shapeOf [c] else pure .misshapen

/-- The text up to the closing backquote. A backslash protects what is special there. -/
def backquoted (quotes : Bool) : Nat → Octets → Parse Octets
  | 0, acc => pure acc.reverse
  | n + 1, acc => do
    match ← look with
    | none => refuse "EOF in backquote substitution".toList
    | some c =>
      skip
      match c with
      | '\x60' => pure acc.reverse
      | '\\' =>
        match ← peek with
        | none => backquoted quotes n ('\\' :: acc)
        | some d =>
          skip
          if d = '\\' ∨ d = '\x60' ∨ d = '$' ∨ (quotes ∧ d = '"') then
            backquoted quotes n (d :: acc)
          else backquoted quotes n (d :: '\\' :: acc)
      | c =>
        if c = '\n' then countLine
        backquoted quotes n (c :: acc)

/-- Reads a text of its own from its first line on. -/
def within {α : Type} (text : Octets) (p : Parse α) : Parse α := do
  let r ← get
  set { r with rest := text, line := 1, layers := [], pushedBack := false, pending := [] }
  let a ← p
  modify fun s =>
    { s with
        rest := r.rest, line := r.line, layers := r.layers, exhausted := r.exhausted
        pushedBack := false, pending := r.pending }
  pure a

section
variable (commands bracketed : Parse Statement)

inductive LineStart where
  | delimiter
  | tabs
  | plain
  deriving DecidableEq

/-- Goes past the line that ends a document, or else past the tabs at the start of a line. -/
def lineStart (p : Pending) : Parse LineStart := do
  if !p.verbatim then join stepLimit
  let tabs ← if p.stripped then takeTabs stepLimit false else pure false
  match follow p.delimiter (← get) with
  | some r =>
    set r
    pure .delimiter
  | none => pure (if tabs then .tabs else .plain)
where
  takeTabs : Nat → Bool → Parse Bool
    | 0, taken => pure taken
    | n + 1, taken => do
      if (← peek) = some '\t' then
        skip
        takeTabs n true
      else pure taken
  follow : Octets → Reader → Option Reader
    | [], r =>
      match r.pull with
      | none => some { r with exhausted := true, line := r.line + 1 }
      | some ('\n', r) => some { r with line := r.line + 1 }
      | some _ => none
    | c :: t, r =>
      match r.pull with
      | some (d, r) => if c = d then follow t r else none
      | none => none

def dollar (role : Role) (d : Draft) : Parse Draft := do
  let quotes := d.frame.quotes
  match ← look with
  | some '(' =>
    if role.isDelimiter then return d.char '$' quotes
    skip
    if (← look) = some '(' then
      skip
      return (d.openBracket (.arithmetic quotes)).pushFrame { setting := .arithmetic, quotes := true }
    let pending := (← get).pending
    modify ({ · with pending := [] })
    let s ← bracketed
    modify fun r =>
      { r with pending, documents := r.pending.map (fun p => (p.number, [])) ++ r.documents }
    return d.add (.output s quotes)
  | some c =>
    if role.isDelimiter then return d.char '$' quotes
    let setting := d.frame.setting
    if c = '\x7b' then
      skip
      match ← bracedShape with
      | .whole name => return d.add (.parameter name quotes)
      | .loose name => return (d.add (.parameter name quotes)).openBrace setting
      | .length name => return (d.openBracket (.length name quotes)).openBrace setting
      | .misshapen => return (d.openBracket .misshapen).openBrace setting
      | .edited name strict edit =>
        let setting := match edit with
          | .trimStart _ | .trimEnd _ => .plain
          | _ => setting
        return (d.openBracket (.edited name strict edit quotes)).openBrace setting
    if Octets.isNameStart c then
      return d.add (.parameter (← takeWhile Octets.isNameChar stepLimit []) quotes)
    if isSpecialParameter c || isDecimal c then
      skip
      return d.add (.parameter [c] quotes)
    return d.char '$' quotes
  | none => return d.char '$' quotes

def escaped (role : Role) (d : Draft) : Parse Draft := do
  match ← peek with
  | none => return d.char '\\' true
  | some c =>
    skip
    if c = '\n' then countLine
    let special :=
      c = '\\' ∨ c = '\x60' ∨ c = '$' ∨
        (c = '"' ∧ !(role.isDocument ∧ d.frame.braces = 0)) ∨ (c = '\x7d' ∧ d.frame.braces ≠ 0)
    let d := if d.frame.quotes ∧ !special then d.char '\\' true else d
    return { d.char c true with quoted := true }

/-- A character to which the rules of any frame but single quotes apply. Nothing comes of one that
ends the word. -/
def ordinary (role : Role) (c : Char) (d : Draft) : Parse (Option Draft) := do
  let f := d.frame
  match c with
  | '\\' =>
    skip
    return some (← escaped role d)
  | '$' =>
    skip
    return some (← dollar bracketed role d)
  | '\x60' =>
    skip
    if role.isDelimiter then return some (d.char c f.quotes)
    let text ← backquoted f.quotes stepLimit []
    let s ← within text commands
    return some (d.add (.output s f.quotes))
  | '\x7d' =>
    skip
    return some (if !f.inner && f.braces != 0 then d.closeBrace else d.char c f.quotes)
  | '\n' =>
    if f.setting = .plain ∧ f.braces = 0 then return none
    skip
    countLine
    return some (d.char c f.quotes)
  | '"' =>
    match f.setting with
    | .plain =>
      skip
      return some (d.openQuotes role .double)
    | .double =>
      skip
      return some (if role.isDocument ∧ f.braces = 0 then d.char c true else d.closeQuotes role)
    | _ =>
      skip
      return some (d.char c f.quotes)
  | '\'' =>
    skip
    return some (if f.setting = .plain then d.openQuotes role .single else d.char c f.quotes)
  | '(' =>
    if f.setting = .plain ∧ f.braces = 0 then return none
    skip
    let d := if f.setting = .arithmetic then d.amend ({ · with parens := f.parens + 1 }) else d
    return some (d.char c f.quotes)
  | ')' =>
    if f.setting = .plain ∧ f.braces = 0 then return none
    skip
    if f.setting ≠ .arithmetic then return some (d.char c f.quotes)
    if f.parens ≠ 0 then
      return some ((d.amend ({ · with parens := f.parens - 1 })).char c f.quotes)
    if ← accept ')' then return some d.popFrame.closeBracket
    return some (d.char c f.quotes)
  | c =>
    if f.setting = .plain ∧ f.braces = 0 ∧ isMeta c then return none
    skip
    return some (d.char c f.quotes)

/-- The rest of a word. At the start of a line a document may end. -/
def gather (role : Role) : Nat → Bool → Draft → Parse Draft
  | 0, _, d => pure d
  | n + 1, starts, d => do
    let start ← match starts, role with
      | true, .document p => lineStart p
      | _, _ => pure .plain
    if start = .delimiter then return d
    match ← if d.frame.setting = .single ∨ start = .tabs then peek else look with
    | none => pure d
    | some c =>
      if d.frame.setting = .single then
        skip
        if c = '\n' then countLine
        if c = '\'' ∧ !(role.isDocument ∧ d.frame.braces = 0) then
          gather role n false (d.closeQuotes role)
        else gather role n (c = '\n') (d.char c true)
      else match ← ordinary commands bracketed role c d with
        | none => pure d
        | some d => gather role n (c = '\n') d

def readWord (role : Role) : Parse Draft := do
  let setting := match role with
    | .document p => if p.verbatim then Setting.single else .double
    | _ => .plain
  let frame := { setting, quotes := setting = .double }
  let d ← gather commands bracketed role stepLimit true { frame }
  if d.frame.setting = .arithmetic then refuse "Missing '))'".toList
  if d.frame.setting ≠ .plain ∧ !role.isDocument then refuse "Unterminated quoted string".toList
  if d.frame.braces ≠ 0 then refuse "Missing '\x7d'".toList
  pure d

/-- The lines of all documents that were announced. -/
def readDocuments : Parse Unit := do
  let pending := (← get).pending
  modify ({ · with pending := [] })
  for p in pending do
    let d ← readWord commands bracketed (.document p)
    modify fun r => { r with documents := (p.number, d.pieces.reverse) :: r.documents }

end
end Parse
end CommandShell.Script
