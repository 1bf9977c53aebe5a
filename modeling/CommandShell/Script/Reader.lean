import CommandShell.Script.Syntax
/-! What a script is read from, character after character. The text of an alias takes the place of
its name while it lasts. -/
namespace CommandShell.Script

inductive Arrow where
  | file (direction : Direction)
  | duplicate
  | document (stripped : Bool)
  deriving DecidableEq

inductive Token where
  | word
  | redirection (fd : Nat) (arrow : Arrow)
  | keyword (name : Octets)
  | newline
  | semicolon
  | ampersand
  | both
  | either
  | pipe
  | opening
  | closing
  | armEnd
  | endOfFile
  deriving DecidableEq

structure Layer where
  name : Octets
  text : Octets
  onward : Bool

/-- A document whose lines are still to come. -/
structure Pending where
  number : Nat
  delimiter : Octets
  stripped : Bool
  verbatim : Bool

structure Reader where
  rest : Octets
  line : Nat
  layers : List Layer := []
  exhausted : Bool := false
  aliases : List (Octets × Octets)
  onward : Bool := false
  /-- The last token, which is given again if it was pushed back. -/
  last : Token := .newline
  pushedBack : Bool := false
  word : Word := []
  quoted : Bool := false
  pending : List Pending := []
  documents : List (Nat × Word) := []
  nextDocument : Nat

/-- What is wrong with a script, and in which line. -/
structure Misfit where
  line : Nat
  message : Octets

abbrev Parse := ExceptT Misfit (StateM Reader)

/-- More steps than any script asks for. -/
def stepLimit : Nat := 1000000000

namespace Reader

def pullFrom (r : Reader) : List Layer → Bool → Option (Char × Reader)
  | [], onward =>
    match r.rest with
    | [] => none
    | c :: t => some (c, { r with rest := t, layers := [], onward })
  | l :: ls, onward =>
    match l.text with
    | [] => pullFrom r ls (onward || l.onward)
    | c :: t => some (c, { r with layers := { l with text := t } :: ls, onward })

def pull (r : Reader) : Option (Char × Reader) := pullFrom r r.layers r.onward

/-- Puts the text of an alias in front. A blank at its end makes the next word an alias too; without
one the text ends a word all the same. -/
def pushAlias (name text : Octets) (r : Reader) : Reader :=
  let onward := text.getLast?.any Octets.isBlank
  let text := if onward then text else text ++ [' ']
  { r with layers := ⟨name, text, onward⟩ :: r.layers }

/-- The text of an alias that is not under way already. -/
def alias? (name : Octets) (r : Reader) : Option Octets :=
  if r.layers.any fun l => l.name == name && !l.text.isEmpty then none else r.aliases.lookup name

end Reader

namespace Parse

def refuse {α : Type} (message : Octets) : Parse α := do throw ⟨(← get).line, message⟩

def peek : Parse (Option Char) := do
  match (← get).pull with
  | some (c, _) => pure (some c)
  | none =>
    modify ({ · with exhausted := true })
    pure none

def skip : Parse Unit := modify fun r =>
  match r.pull with
  | some (_, r) => r
  | none => r

def countLine : Parse Unit := modify fun r => { r with line := r.line + 1 }

/-- Goes past pairs of a backslash and a newline. -/
def join : Nat → Parse Unit
  | 0 => pure ()
  | n + 1 => do
    match (← get).pull with
    | some ('\\', r) =>
      match r.pull with
      | some ('\n', r) =>
        set { r with line := r.line + 1 }
        join n
      | some _ => pure ()
      | none => modify ({ · with exhausted := true })
    | _ => pure ()

/-- The next character after joined lines. -/
def look : Parse (Option Char) := do
  join stepLimit
  peek

/-- Goes past the next character if it is this one. -/
def accept (c : Char) : Parse Bool := do
  if (← look) = some c then
    skip
    pure true
  else pure false

def pushBack : Parse Unit := modify ({ · with pushedBack := true })

end Parse
end CommandShell.Script
