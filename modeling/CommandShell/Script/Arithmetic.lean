import CommandShell.Script.Variables
/-! The value of an arithmetic expression, in 64 bits with a sign. A part that does not count is read
all the same, but nothing in it is looked up, assigned or divided. -/
namespace CommandShell.Script.Arithmetic

inductive Operator where
  | times
  | quotient
  | remainder
  | plus
  | minus
  | left
  | right
  | less
  | atMost
  | greater
  | atLeast
  | equal
  | unequal
  | conjunction
  | difference
  | disjunction
  deriving DecidableEq

inductive Symbol where
  | number (n : Int)
  | name (t : Octets)
  | binary (o : Operator)
  | assign (o : Option Operator)
  | both
  | either
  | negation
  | complement
  | question
  | colon
  | opening
  | closing
  | end_
  | unknown
  deriving DecidableEq

namespace Operator

/-- Operators of a lower level bind more tightly. -/
def level : Operator → Nat
  | times | quotient | remainder => 0
  | plus | minus => 1
  | left | right => 2
  | less | atMost | greater | atLeast => 3
  | equal | unequal => 4
  | conjunction => 5
  | difference => 6
  | disjunction => 7

/-- The signs of operators, longer ones first. Most of them can be followed by one that assigns. -/
def signs : List (String × Operator × Bool) :=
  [("<<", left, true), (">>", right, true), ("<=", atMost, false), (">=", atLeast, false),
   ("==", equal, false), ("!=", unequal, false), ("<", less, false), (">", greater, false),
   ("*", times, true), ("/", quotient, true), ("%", remainder, true), ("+", plus, true),
   ("-", minus, true), ("&", conjunction, true), ("^", difference, true), ("|", disjunction, true)]

end Operator

def bits (n : Int) : Nat := (n % (Numeral.modulus : Int)).toNat

def bitwise (f : Nat → Nat → Nat) (a b : Int) : Int := Numeral.wrap (f (bits a) (bits b) : Nat)

def flag (b : Bool) : Int := if b then 1 else 0

def sign? (t : Octets) : Option (Symbol × Octets) :=
  let starts := fun s : String => s.toList.isPrefixOf t
  if starts "&&" then some (.both, t.drop 2)
  else if starts "||" then some (.either, t.drop 2)
  else
    (Operator.signs.find? fun (s, _) => starts s).map fun (s, o, assigns) =>
      let rest := t.drop s.length
      if assigns && rest.head? = some '=' then (.assign (some o), rest.tail) else (.binary o, rest)

def next (t : Octets) : Symbol × Octets :=
  let t := t.dropWhile fun c => Octets.isBlank c || c == '\n'
  match t with
  | [] => (.end_, [])
  | c :: rest =>
    if isDecimal c then
      let n := Numeral.read none t
      (.number (Numeral.clamp n.value), n.rest)
    else if Octets.isNameStart c then
      (.name (t.takeWhile Octets.isNameChar), t.dropWhile Octets.isNameChar)
    else match sign? t with
      | some r => r
      | none =>
        match c with
        | '=' => (.assign none, rest)
        | '!' => (.negation, rest)
        | '~' => (.complement, rest)
        | '?' => (.question, rest)
        | ':' => (.colon, rest)
        | '(' => (.opening, rest)
        | ')' => (.closing, rest)
        | _ => (.unknown, t)

structure State where
  whole : Octets
  rest : Octets
  symbol : Symbol

abbrev Reading := StateT State Effect

open Effect

def refuse {α : Type} (reason : String) : Reading α := do
  let s ← get
  fail ("arithmetic expression: ".toList ++ reason.toList ++ ": \"".toList ++ s.whole ++ ['"'])

def advance : Reading Unit := modify fun s =>
  let (symbol, rest) := next s.rest
  { s with symbol, rest }

def take : Reading Symbol := do
  let s ← get
  advance
  pure s.symbol

/-- The number of a variable. One without a value is zero. -/
def lookup (name : Octets) : Effect Int := do
  let t := ((← context).value? name).getD []
  match integer? none t with
  | some n => pure n
  | none => illegalNumber t

/-- The largest quotient has no place in 64 bits, which ends the process. -/
def divide (f : Int → Int → Int) (a b : Int) : Reading Int := do
  if b = 0 then refuse "division by zero"
  if a = Numeral.smallest ∧ b = -1 then throw (.killed 8)
  pure (f a b)

def apply (o : Operator) (a b : Int) : Reading Int :=
  match o with
  | .times => pure (Numeral.wrap (a * b))
  | .quotient => divide Int.tdiv a b
  | .remainder => divide Int.tmod a b
  | .plus => pure (Numeral.wrap (a + b))
  | .minus => pure (Numeral.wrap (a - b))
  | .left => pure (Numeral.wrap ((bits a <<< (bits b % 64) : Nat) : Int))
  | .right => pure (a >>> (bits b % 64))
  | .less => pure (flag (a < b))
  | .atMost => pure (flag (a ≤ b))
  | .greater => pure (flag (b < a))
  | .atLeast => pure (flag (b ≤ a))
  | .equal => pure (flag (a = b))
  | .unequal => pure (flag (a ≠ b))
  | .conjunction => pure (bitwise Nat.land a b)
  | .difference => pure (bitwise Nat.xor a b)
  | .disjunction => pure (bitwise Nat.lor a b)

/-- What an operation gives that does not count is of no interest. -/
def applyIf (counts : Bool) (o : Operator) (a b : Int) : Reading Int :=
  if counts then apply o a b else pure b

section
variable (whole : Bool → Reading Int)

def primary (counts : Bool) : Nat → Reading Int
  | 0 => refuse "expecting primary"
  | n + 1 => do
    match ← take with
    | .number v => pure v
    | .name t => if counts then lookup t else pure 0
    | .opening =>
      let v ← whole counts
      if (← get).symbol ≠ .closing then refuse "expecting ')'"
      advance
      pure v
    | .binary .plus => primary counts n
    | .binary .minus => return Numeral.wrap (-(← primary counts n))
    | .negation => return flag ((← primary counts n) = 0)
    | .complement => return -(← primary counts n) - 1
    | _ => refuse "expecting primary"

/-- Operations on a value so far, as long as they are below a level. -/
def operations (counts : Bool) (limit : Nat) : Nat → Int → Reading Int
  | 0, a => pure a
  | n + 1, a => do
    match (← get).symbol with
    | .binary o =>
      if limit ≤ o.level then return a
      advance
      let b ← primary whole counts stepLimit
      let b ← operations counts o.level n b
      operations counts limit n (← applyIf counts o a b)
    | _ => pure a
where
  stepLimit : Nat := 1000000

def binary (counts : Bool) : Reading Int := do
  operations whole counts 8 1000000 (← primary whole counts 1000000)

def conjunction (counts : Bool) : Nat → Reading Int
  | 0 => refuse "expecting primary"
  | n + 1 => do
    let a ← binary whole counts
    if (← get).symbol ≠ .both then return a
    advance
    let b ← conjunction (counts && a ≠ 0) n
    return flag (a ≠ 0 && b ≠ 0)

def disjunction (counts : Bool) : Nat → Reading Int
  | 0 => refuse "expecting primary"
  | n + 1 => do
    let a ← conjunction whole counts 1000000
    if (← get).symbol ≠ .either then return a
    advance
    let b ← disjunction (counts && a = 0) n
    return flag (a ≠ 0 || b ≠ 0)

def conditional (counts : Bool) : Nat → Reading Int
  | 0 => refuse "expecting primary"
  | n + 1 => do
    let a ← disjunction whole counts 1000000
    if (← get).symbol ≠ .question then return a
    advance
    let b ← whole (counts && a ≠ 0)
    if (← get).symbol ≠ .colon then refuse "expecting ':'"
    advance
    let c ← conditional (counts && a = 0) n
    return if a ≠ 0 then b else c

def assignment (counts : Bool) : Reading Int := do
  let s ← get
  match s.symbol, next s.rest with
  | .name t, (.assign o, rest) =>
    set { s with rest }
    advance
    let b ← whole counts
    if !counts then return b
    let v ← match o with
      | none => pure b
      | some o => apply o (← lookup t) b
    assign t (toString v).toList
    pure v
  | _, _ => conditional whole counts 1000000

end

/-- An expression with so many others in one another. -/
def expression : Nat → Bool → Reading Int
  | 0, _ => refuse "expecting primary"
  | n + 1, counts => assignment (expression n) counts

def value (t : Octets) : Effect Int := do
  let (symbol, rest) := next t
  let (v, s) ← (expression 10000 true).run ⟨t, rest, symbol⟩
  if s.symbol ≠ .end_ then
    let _ ← (refuse "expecting EOF" : Reading Int).run s
  pure v

end CommandShell.Script.Arithmetic
