import CommandShell.Text.Decimal
/-! Output redirections among the words of a line: `2> f` in two words or `2>f` in one. A doubled
`>>` redirects nothing. -/
namespace CommandShell

/-- Targets by descriptor, in ascending order. -/
abbrev Redirects := List (Nat × Text)

namespace Redirects

/-- The target of `fd` becomes `target`, whatever it was. -/
def insert (fd : Nat) (target : Text) : Redirects → Redirects
  | [] => [(fd, target)]
  | (n, t) :: rest =>
    if fd < n then (fd, target) :: (n, t) :: rest
    else if fd = n then (fd, target) :: rest
    else (n, t) :: insert fd target rest

def target? (rs : Redirects) (fd : Nat) : Option Text := rs.lookup fd

end Redirects

def standardOutput : Nat := 1

def standardError : Nat := 2

/-- Descriptors are numbers of 32 bits. -/
def descriptorLimit : Nat := 0x100000000

/-- The descriptor that stands before `>`: standard output when none does, and none at all when
the number is too large for one. -/
def descriptor? (digits : Text) : Option Nat :=
  if digits.isEmpty then some standardOutput
  else if decimalValue digits < descriptorLimit then some (decimalValue digits)
  else none

/-- A word that redirects: alone, with its target in the next word, or with the target in it. -/
inductive Operator where
  | bare (fd : Nat)
  | glued (fd : Nat) (target : Text)
  deriving DecidableEq

/-- A target in the operator's own word starts with no `>` and has no newline after its start. -/
def Operator.ofToken? (token : Text) : Option Operator :=
  match token.dropWhile isDecimal with
  | '>' :: target =>
    match target with
    | [] => (descriptor? (token.takeWhile isDecimal)).map .bare
    | c :: rest =>
      if c = '>' ∨ '\n' ∈ rest then none
      else (descriptor? (token.takeWhile isDecimal)).map (.glued · target)
  | _ => none

inductive Item where
  | word (text : Text)
  | redirect (fd : Nat) (target : Text)
  deriving DecidableEq

/-- The items in order. An operator without a word for its target is dropped. -/
def items : List Text → List Item
  | [] => []
  | t :: rest =>
    match Operator.ofToken? t with
    | some (.glued fd target) => .redirect fd target :: items rest
    | some (.bare fd) =>
      match rest with
      | [] => []
      | target :: rest => .redirect fd target :: items rest
    | none => .word t :: items rest

def Item.word? : Item → Option Text
  | .word t => some t
  | .redirect .. => none

def words (its : List Item) : List Text := its.filterMap Item.word?

/-- The last redirection of each descriptor. -/
def redirects (its : List Item) : Redirects :=
  its.foldl (fun rs i => match i with
    | .word _ => rs
    | .redirect fd target => rs.insert fd target) []

def extract (ts : List Text) : List Text × Redirects := (words (items ts), redirects (items ts))

end CommandShell
