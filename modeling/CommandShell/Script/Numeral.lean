import CommandShell.Script.Octets
/-! Whole numbers at the start of a text, in 64 bits. -/
namespace CommandShell.Script

structure Numeral where
  value : Int
  rest : Octets
  found : Bool
  deriving DecidableEq

namespace Numeral

def largest : Int := 9223372036854775807

def smallest : Int := -9223372036854775808

def modulus : Nat := 18446744073709551616

/-- The number in 64 bits with a sign that is left of any number. -/
def wrap (n : Int) : Int := n.bmod modulus

def clamp (n : Int) : Int := max smallest (min n largest)

def inRange (n : Int) : Bool := smallest ≤ n && n ≤ largest

def digit? (c : Char) : Option Nat :=
  if isDecimal c then some (c.toNat - '0'.toNat)
  else if 'a' ≤ c && c ≤ 'z' then some (c.toNat - 'a'.toNat + 10)
  else if 'A' ≤ c && c ≤ 'Z' then some (c.toNat - 'A'.toNat + 10)
  else none

def isDigit (base : Nat) (c : Char) : Bool := (digit? c).any (· < base)

def digitsValue (base : Nat) (t : Octets) : Nat :=
  t.foldl (fun n c => n * base + (digit? c).getD 0) 0

/-- The base that a numeral is written in, and its digits with what follows. A leading zero stands
for eight, and `0x` before a digit for sixteen. -/
def baseOf : Octets → Nat × Octets
  | '0' :: x :: c :: t =>
    if (x == 'x' || x == 'X') && isDigit 16 c then (16, c :: t) else (8, '0' :: x :: c :: t)
  | '0' :: t => (8, '0' :: t)
  | t => (10, t)

/-- The numeral after spaces and a sign. Without a base it tells its base itself. -/
def read (base : Option Nat) (t : Octets) : Numeral :=
  let u := t.dropWhile Octets.isSpace
  let (negative, u) := match u with
    | '-' :: u => (true, u)
    | '+' :: u => (false, u)
    | u => (false, u)
  let (base, u) := match base with
    | some b => (b, u)
    | none => baseOf u
  let digits := u.takeWhile (isDigit base)
  if digits.isEmpty then ⟨0, t, false⟩
  else
    let n : Int := digitsValue base digits
    ⟨if negative then -n else n, u.drop digits.length, true⟩

end Numeral

/-- The number that all of a text is, but for spaces around it. Where the base is open, no text at
all stands for zero. -/
def integer? (base : Option Nat) (t : Octets) : Option Int :=
  let n := Numeral.read base t
  if Numeral.inRange n.value && (n.found || base.isNone) && n.rest.all Octets.isSpace then
    some n.value
  else none

/-- The number of an argument, which has to fit into 31 bits without a sign. -/
def ordinal? (t : Octets) : Option Nat :=
  ((integer? (some 10) t).filter fun n => 0 ≤ n && n ≤ 2147483647).map Int.toNat

end CommandShell.Script
