import CommandShell.Script.Octets
/-! What scripts are made of. -/
namespace CommandShell.Script

inductive Edit where
  | fallback
  | assign
  | demand
  | instead
  | trimStart (longest : Bool)
  | trimEnd (longest : Bool)
  deriving DecidableEq

inductive Direction where
  | read
  | write
  | overwrite
  | append
  | exchange
  deriving DecidableEq

mutual

/-- A piece of a word. What is quoted is neither split nor matched against file names. -/
inductive Piece where
  | char (c : Char) (quoted : Bool)
  /-- Quotes stood here, so that there is a word even if it is empty. -/
  | mark
  | parameter (name : Octets) (quoted : Bool)
  | length (name : Octets) (quoted : Bool)
  /-- An empty value counts as missing if this is strict. -/
  | edited (name : Octets) (strict : Bool) (edit : Edit) (word : List Piece) (quoted : Bool)
  | misshapen
  | output (commands : Statement) (quoted : Bool)
  | arithmetic (expression : List Piece) (quoted : Bool)

inductive Redirection where
  | file (fd : Nat) (direction : Direction) (name : List Piece)
  | duplicate (fd : Nat) (source : List Piece)
  /-- Lines of the script itself, kept under a number. -/
  | document (fd : Nat) (number : Nat)

/-- A command, or several. Lines are those where errors are reported. -/
inductive Statement where
  | nothing
  | simple (line : Nat) (assignments words : List (List Piece)) (redirections : List Redirection)
  | sequence (a b : Statement)
  | both (a b : Statement)
  | either (a b : Statement)
  | negation (a : Statement)
  | pipeline (parts : List Statement) (background : Bool)
  | redirected (line : Nat) (a : Statement) (redirections : List Redirection)
  | subshell (line : Nat) (a : Statement) (redirections : List Redirection)
  | background (a : Statement) (redirections : List Redirection)
  | choice (test yes no : Statement)
  /-- Repeats as long as the test succeeds, or fails, as is wanted. -/
  | loop (wanted : Bool) (test body : Statement)
  | each (line : Nat) (name : Octets) (words : List (List Piece)) (body : Statement)
  | select (line : Nat) (word : List Piece) (arms : List (List (List Piece) × Statement))
  | define (name : Octets) (body : Statement)

end

abbrev Word := List Piece

namespace Word

/-- The text of a word in which nothing is quoted or replaced. -/
def literal? : Word → Option Octets
  | [] => some []
  | .char c false :: w => (literal? w).map (c :: ·)
  | _ => none

/-- The characters of a word in which nothing is replaced. -/
def text : Word → Octets
  | [] => []
  | .char c _ :: w => c :: text w
  | _ :: w => text w

/-- Whether a word starts with a name, unquoted, and a sign of equality after it. -/
def isAssignment : Word → Bool
  | .char c false :: w => Octets.isNameStart c && goesOn w
  | _ => false
where
  goesOn : Word → Bool
    | .char c false :: w => c == '=' || (Octets.isNameChar c && goesOn w)
    | _ => false

/-- All arguments, each a field of its own. -/
def arguments : Word := [.mark, .parameter ['@'] true, .mark]

end Word

namespace Statement

def isNothing : Statement → Bool
  | nothing => true
  | _ => false

/-- The statement that is run without waiting for its end. -/
def unattended : Statement → Statement
  | pipeline parts _ => pipeline parts true
  | redirected _ a rs => background a rs
  | a => background a []

end Statement
end CommandShell.Script
