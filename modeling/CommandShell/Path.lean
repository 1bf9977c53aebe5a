import CommandShell.Text.Basic
/-! Paths as text, and what they say without a look at any disk. -/
namespace CommandShell

inductive Component where
  | root
  | current
  | parent
  | name (n : Text)
  deriving DecidableEq

namespace Component

def text : Component → Text
  | root => ['/']
  | current => ['.']
  | parent => ['.', '.']
  | name n => n

end Component

namespace Path

def isAbsolute (p : Text) : Bool := p.head? == some '/'

/-- The stretches between slashes, empty ones included. -/
def segments (p : Text) : List Text := p.splitOn '/'

/-- What a stretch stands for; empty ones and single dots stand for nothing. -/
def Component.ofSegment? (s : Text) : Option Component :=
  if s = [] ∨ s = ['.'] then none
  else if s = ['.', '.'] then some .parent
  else some (.name s)

/-- The steps of a path. A dot counts only at the start of a relative path. -/
def components (p : Text) : List Component :=
  let steps := (segments p).filterMap Component.ofSegment?
  if isAbsolute p then .root :: steps
  else if (segments p).head? = some ['.'] then .current :: steps
  else steps

def ofComponents : List Component → Text
  | .root :: cs => '/' :: Text.join ['/'] (cs.map Component.text)
  | cs => Text.join ['/'] (cs.map Component.text)

/-- One more step on a path kept last step first: a dot stays, and `..` takes back a name. -/
def advance (stack : List Component) : Component → List Component
  | .current => stack
  | .parent =>
    match stack with
    | .name _ :: rest => rest
    | .root :: _ => stack
    | _ => .parent :: stack
  | c => c :: stack

def collapse (cs : List Component) : List Component := (cs.foldl advance []).reverse

/-- The path without dots, and with every `..` applied to the name before it. -/
def normalize (p : Text) : Text := ofComponents (collapse (components p))

/-- `p` seen from `base`. An absolute path is seen alike from everywhere. -/
def joinBy {α : Type} [DecidableEq α] (slash : α) (base p : List α) : List α :=
  if p.head? = some slash then p
  else if base = [] ∨ base.getLast? = some slash then base ++ p
  else base ++ [slash] ++ p

def join (base p : Text) : Text := joinBy '/' base p

theorem join_eq (base p : Text) : join base p =
    if isAbsolute p then p
    else if base = [] ∨ base.getLast? = some '/' then base ++ p
    else base ++ ['/'] ++ p := by
  rw [join, joinBy, isAbsolute]
  simp only [beq_iff_eq]

end Path
end CommandShell
