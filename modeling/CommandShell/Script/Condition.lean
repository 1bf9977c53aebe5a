import CommandShell.Script.Numeral
import CommandShell.Script.Pattern
import CommandShell.Script.Switch
/-! Conditions that the words of a command state: about texts, numbers and files. -/
namespace CommandShell.Script

inductive Term where
  | operand
  | unary (letter : Char)
  | binary (name : Octets)
  | negation
  | both
  | either
  | opening
  | closing
  | missing
  deriving DecidableEq

namespace Term

def unaryLetters : Octets := "rwxefdcbpugkstznhOGLS".toList

def comparisons : List Octets :=
  ["=", "!=", "<", ">", "-eq", "-ne", "-ge", "-gt", "-le", "-lt", "-nt", "-ot", "-ef"].map
    String.toList

def isComparison (w : Octets) : Bool := comparisons.contains w

/-- Whether a word that asks about an operand is one itself, as the words after it tell. -/
def standsAlone : List Octets → Bool
  | [] => true
  | [_] => false
  | w :: _ => isComparison w

def read : List Octets → Term
  | [] => missing
  | w :: rest =>
    match w with
    | ['!'] => negation
    | ['-', 'a'] => both
    | ['-', 'o'] => either
    | ['('] => if rest.isEmpty then operand else opening
    | [')'] => closing
    | ['-', c] =>
      if !unaryLetters.contains c ∨ standsAlone rest then operand else unary c
    | w => if isComparison w then binary w else operand

end Term

namespace Condition

/-- What is asked about a file that is there. -/
def holdsOf (d : Disk) (user : Place) (letter : Char) (e : Entry) : Bool :=
  match letter with
  | 'e' | 'O' | 'G' => true
  | 'f' => e.isRegular
  | 'd' => e.isDirectory
  | 'r' => user.permits e .read
  | 'w' => user.permits e .write
  | 'x' => user.permits e .search && (e.isDirectory || e.isExecutable)
  | 'u' => e.mode.testBit 11
  | 'g' => e.mode.testBit 10
  | 'k' => e.mode.testBit 9
  | 's' =>
    match e.node with
    | .file => !(d.content e.serial).isEmpty
    | .device _ => false
    | _ => true
  | 'c' =>
    match e.node with
    | .device _ => true
    | _ => false
  | _ => false

def isLink (e : Entry) : Bool :=
  match e.node with
  | .link _ => true
  | _ => false

open Effect

def number (t : Octets) : Effect Int := do
  match integer? (some 10) t with
  | some n => pure n
  | none => illegalNumber t

def entries (a b : Octets) : Effect (Option (Entry × Entry)) := do
  let place := (← context).place
  let d ← disk
  match d.find place (Octets.toText a), d.find place (Octets.toText b) with
  | .ok (_, e), .ok (_, f) => pure (some (e, f))
  | _, _ => pure none

def ask (letter : Char) (t : Octets) : Effect Bool := do
  match letter with
  | 'z' => pure t.isEmpty
  | 'n' => pure !t.isEmpty
  | 't' =>
    let _ ← number t
    pure false
  | _ =>
    let place := (← context).place
    let d ← disk
    if letter = 'h' ∨ letter = 'L' then pure ((entryAt? d place t).any isLink)
    else
      match d.find place (Octets.toText t) with
      | .ok (_, e) => pure (holdsOf d place letter e)
      | .error _ => pure false

/-- No file is newer than another, as all are made within one moment. -/
def compare (a name b : Octets) : Effect Bool := do
  let numbers (p : Int → Int → Bool) : Effect Bool := do
    let m ← number a
    let n ← number b
    pure (p m n)
  match String.ofList name with
  | "=" => pure (a == b)
  | "!=" => pure (a != b)
  | "<" => pure (Octets.isStrictlyBefore a b)
  | ">" => pure (Octets.isStrictlyBefore b a)
  | "-eq" => numbers fun m n => m = n
  | "-ne" => numbers fun m n => m ≠ n
  | "-ge" => numbers fun m n => n ≤ m
  | "-gt" => numbers fun m n => n < m
  | "-le" => numbers fun m n => m ≤ n
  | "-lt" => numbers fun m n => m < n
  | "-ef" => return (← entries a b).any fun (e, f) => e.serial = f.serial
  | _ => pure false

def refuse {α : Type} (w : Octets) (message : String) : Effect α :=
  fail (if w.isEmpty then message.toList else w ++ ": ".toList ++ message.toList)

/-- The value of the first words, and the words from the last one used. -/
abbrev Value := Bool × List Octets

section
variable (whole : Term → List Octets → Effect Value)

def primary (t : Term) (ws : List Octets) : Effect Value := do
  match t with
  | .missing => pure (false, ws)
  | .opening =>
    let inside := ws.tail
    if Term.read inside = .closing then return (false, inside)
    let (b, last) ← whole (Term.read inside) inside
    if Term.read last.tail ≠ .closing then refuse [] "closing paren expected"
    pure (b, last.tail)
  | .unary letter =>
    match ws.tail with
    | [] => refuse ['-', letter] "argument expected"
    | w :: rest => return (← ask letter w, w :: rest)
  | _ =>
    match ws, Term.read ws.tail with
    | a :: _ :: b :: rest, .binary name => return (← compare a name b, b :: rest)
    | _, .binary name => refuse name "argument expected"
    | a :: _, _ => pure (!a.isEmpty, ws)
    | [], _ => pure (false, [])

def negated : Nat → Term → List Octets → Effect Value
  | n + 1, .negation, ws => do
    let t := Term.read ws.tail
    let (b, ws) ← negated n t (if t = .missing then ws else ws.tail)
    pure (!b, ws)
  | _, t, ws => primary whole t ws

def conjunction : Nat → Term → List Octets → Effect Value
  | 0, t, ws => primary whole t ws
  | n + 1, t, ws => do
    let (a, ws) ← negated whole (ws.length + 1) t ws
    if Term.read ws.tail ≠ .both then return (a, ws)
    let rest := ws.drop 2
    let (b, ws) ← conjunction n (Term.read rest) rest
    pure (a && b, ws)

def disjunction : Nat → Term → List Octets → Effect Value
  | 0, t, ws => primary whole t ws
  | n + 1, t, ws => do
    let (a, ws) ← conjunction whole (ws.length + 1) t ws
    if Term.read ws.tail ≠ .either then return (a, ws)
    let rest := ws.drop 2
    let (b, ws) ← disjunction n (Term.read rest) rest
    pure (a || b, ws)

end

/-- A condition with so many others in one another. -/
def nested : Nat → Term → List Octets → Effect Value
  | 0, _, ws => pure (false, ws)
  | n + 1, t, ws => disjunction (nested n) (ws.length + 1) t ws

def whole (t : Term) (ws : List Octets) : Effect Bool := do
  let (b, last) ← nested (ws.length + 1) t ws
  match last with
  | w :: _ :: _ => refuse w "unexpected operator"
  | _ => pure b

def all (ws : List Octets) : Effect Bool := whole (Term.read ws) ws

def opposite (act : Effect Bool) : Effect Bool := do return !(← act)

/-- The value of three words, after whose understanding something else may be left to do. -/
def three (after : Effect Bool → Effect Bool) (a name b : Octets) : Effect Bool :=
  if Term.isComparison name then after (whole .operand [a, name, b])
  else if a = ['('] ∧ b = [')'] then after (all [name])
  else if a = ['!'] then opposite (all [name, b])
  else after (all [a, name, b])

/-- The value of all words. Some of three or four words are understood by their number. A negation
in front of three is none if another one follows. -/
def value : List Octets → Effect Bool
  | [] => pure false
  | [a, name, b] => three id a name b
  | [a, b, c, d] =>
    if a = ['('] ∧ d = [')'] then all [b, c]
    else if a = ['!'] then three opposite b c d
    else all [a, b, c, d]
  | ws => all ws

end Condition

namespace Effect

def testCommand (args : List Octets) : Effect Nat := do
  return if ← Condition.value args then 0 else 1

/-- The same in brackets. What follows the closing one in its word does not matter. -/
def bracketCommand (args : List Octets) : Effect Nat := do
  if args.getLast?.bind (·.head?) ≠ some ']' then fail "missing ]".toList
  testCommand args.dropLast

end Effect
end CommandShell.Script
