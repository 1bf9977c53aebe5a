import CommandShell.Script.Machine
/-! Letters after a dash, with which commands are told what to do. -/
namespace CommandShell.Script

/-- The letters in front of the other arguments of a command. -/
structure Switches where
  given : List (Char × Octets) := []
  rest : List Octets := []
  misuse : Option Octets := none

namespace Switches

/-- Reads letters, first those that are left of one argument. Of each letter that is allowed it is
known whether it takes an argument. -/
def read (allowed : List (Char × Bool)) : Octets → List Octets → Switches
  | [], ['-', '-'] :: rest => { rest }
  | [], ('-' :: c :: t) :: rest => read allowed (c :: t) rest
  | [], rest => { rest }
  | c :: t, args =>
    let add := fun (value : Octets) (s : Switches) => { s with given := (c, value) :: s.given }
    match allowed.lookup c with
    | none => { rest := args, misuse := some ("Illegal option -".toList ++ [c]) }
    | some false => add [] (read allowed t args)
    | some true =>
      if !t.isEmpty then add t (read allowed [] args)
      else
        match args with
        | [] => { misuse := some ("No arg for -".toList ++ c :: " option".toList) }
        | a :: args => add a (read allowed [] args)
  termination_by letters args => (args.length, letters.length)
  decreasing_by all_goals simp_all [Prod.lex_def]

def has (s : Switches) (c : Char) : Bool := s.given.any (·.1 == c)

def startWith (c : Char) : List Octets → Bool
  | ('-' :: d :: _) :: _ => d == c
  | _ => false

end Switches

namespace Effect

/-- The switches of a command and its other arguments. -/
def switches (allowed : List (Char × Bool)) (args : List Octets) : Effect Switches := do
  let s := Switches.read allowed [] args
  match s.misuse with
  | some message => fail message
  | none => pure s

def operands (args : List Octets) : Effect (List Octets) := do return (← switches [] args).rest

end Effect
end CommandShell.Script
