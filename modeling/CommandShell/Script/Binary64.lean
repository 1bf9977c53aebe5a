import CommandShell.Script.Numeral
/-! Numbers with 53 binary digits and an exponent. They are read from text and written as text by
exact rounding: to the nearest, and of two that are equally near to the even one. -/
namespace CommandShell.Script

/-- A finite number is its significand times a power of two. -/
inductive Binary64 where
  | finite (negative : Bool) (significand : Nat) (exponent : Int)
  | infinite (negative : Bool)
  | undefined (negative : Bool)
  deriving DecidableEq

/-- A ratio of natural numbers, the second of which is not zero. -/
abbrev Ratio := Nat × Nat

namespace Ratio

def scale (base : Nat) (k : Int) (r : Ratio) : Ratio :=
  if 0 ≤ k then (r.1 * Nat.pow base k.toNat, r.2) else (r.1, r.2 * Nat.pow base (-k).toNat)

def round (r : Ratio) : Nat :=
  let q := r.1 / r.2
  let twice := 2 * (r.1 % r.2)
  if twice < r.2 ∨ (twice = r.2 ∧ q % 2 = 0) then q else q + 1

def isWhole (r : Ratio) : Bool := r.1 % r.2 == 0

end Ratio

namespace Binary64

/-- The exponent of numbers that are so small that they have fewer digits. -/
def smallestExponent : Int := -1074

def largestExponent : Int := 971

def tooLong : Nat := 1 <<< 53

def zero (negative : Bool) : Binary64 := finite negative 0 smallestExponent

def isNegative : Binary64 → Bool
  | finite negative .. | infinite negative | undefined negative => negative

/-- The number nearest to a ratio, and whether it is in range: neither too large nor so small that
digits are lost. -/
def nearest (negative : Bool) (r : Ratio) : Binary64 × Bool :=
  let size : Int := (Nat.log2 r.1 : Int) - Nat.log2 r.2
  let first := max (size - 53) smallestExponent
  let e := if (r.scale 2 (-first)).1 / (r.scale 2 (-first)).2 < tooLong then first else first + 1
  let e := if (r.scale 2 (-e)).1 / (r.scale 2 (-e)).2 < tooLong then e else e + 1
  let s := r.scale 2 (-e)
  let m := s.round
  let (m, e) := if m = tooLong then (m / 2, e + 1) else (m, e)
  if largestExponent < e then (infinite negative, false)
  else (finite negative m e, 2 * m ≥ tooLong || s.isWhole)

/-! ## Reading -/

structure Reading where
  value : Binary64
  rest : Octets
  found : Bool := true
  inRange : Bool := true

def pointedDigits (base : Nat) (t : Octets) : Octets × Octets × Octets :=
  let whole := t.takeWhile (Numeral.isDigit base)
  match t.drop whole.length with
  | '.' :: u =>
    let fraction := u.takeWhile (Numeral.isDigit base)
    if whole.isEmpty && fraction.isEmpty then ([], [], t)
    else (whole, fraction, u.drop fraction.length)
  | u => (whole, [], u)

def exponentAfter (mark : Char) : Octets → Int × Octets
  | [] => (0, [])
  | c :: t =>
    let (negative, u) := match t with
      | '-' :: u => (true, u)
      | '+' :: u => (false, u)
      | u => (false, u)
    let digits := u.takeWhile isDecimal
    if c.toLower ≠ mark ∨ digits.isEmpty then (0, c :: t)
    else
      let n : Int := decimalValue digits
      (if negative then -n else n, u.drop digits.length)

/-- A number times a power of a base. What is far out of range is not worked out. -/
def ofScaled (negative : Bool) (base n : Nat) (k : Int) : Binary64 × Bool :=
  let size := (Nat.toDigits base n).length + k
  if n = 0 then (zero negative, true)
  else if 2000 < size then (infinite negative, false)
  else if size < -2000 then (zero negative, false)
  else nearest negative (Ratio.scale base k (n, 1))

def readDecimal (negative : Bool) (t : Octets) : Option Reading :=
  let (whole, fraction, u) := pointedDigits 10 t
  if whole.isEmpty && fraction.isEmpty then none
  else
    let (k, rest) := exponentAfter 'e' u
    let n := Numeral.digitsValue 10 (whole ++ fraction)
    let (value, inRange) := ofScaled negative 10 n (k - fraction.length)
    some { value, rest, inRange }

/-- The digits are in base 16, the exponent is in decimal and counts powers of two. -/
def readHexadecimal (negative : Bool) (t : Octets) : Option Reading :=
  let (whole, fraction, u) := pointedDigits 16 t
  if whole.isEmpty && fraction.isEmpty then none
  else
    let (k, rest) := exponentAfter 'p' u
    let n := Numeral.digitsValue 16 (whole ++ fraction)
    let (value, inRange) := ofScaled negative 2 n (k - 4 * fraction.length)
    some { value, rest, inRange }

def wordAfter? (word : String) (t : Octets) : Option Octets :=
  let n := word.length
  if (t.take n).map Char.toLower = word.toList then some (t.drop n) else none

def afterBrackets (t : Octets) : Octets :=
  match t with
  | '(' :: u =>
    match u.dropWhile Octets.isNameChar with
    | ')' :: rest => rest
    | _ => t
  | _ => t

def read (t : Octets) : Reading :=
  let u := t.dropWhile Octets.isSpace
  let (negative, u) := match u with
    | '-' :: u => (true, u)
    | '+' :: u => (false, u)
    | u => (false, u)
  let special := fun value (word : String) =>
    (wordAfter? word u).map fun rest => ({ value, rest } : Reading)
  let hexadecimal := (wordAfter? "0x" u).bind (readHexadecimal negative)
  let number := (hexadecimal.or (readDecimal negative u)).or
    ((special (infinite negative) "infinity").or
      ((special (infinite negative) "inf").or
        ((special (undefined negative) "nan").map fun r =>
          { r with rest := afterBrackets r.rest })))
  number.getD { value := zero false, rest := t, found := false }

/-! ## Writing -/

def ratio (significand : Nat) (exponent : Int) : Ratio := Ratio.scale 2 exponent (significand, 1)

/-- Digits with a point before the last of them. The point stays without digits after it if that is
wanted. -/
def pointed (places : Nat) (always : Bool) (digits : Octets) : Octets :=
  let digits := List.replicate (places + 1 - digits.length) '0' ++ digits
  let whole := digits.length - places
  digits.take whole ++
    if places = 0 && !always then [] else '.' :: digits.drop whole

/-- After the point only zeros follow so many digits. -/
def placeLimit : Nat := 1074

def withZeros (places : Nat) (t : Octets) : Octets :=
  t ++ List.replicate (places - placeLimit) '0'

def fixedText (places : Nat) (always : Bool) (r : Ratio) : Octets :=
  let own := min places placeLimit
  withZeros places (pointed own always (decimal (r.scale 10 own).round))

/-- One digit before the point and so many after it, without the point, and the power of ten. -/
def decimalDigits (places : Nat) (r : Ratio) : Nat × Int :=
  if r.1 = 0 then (0, 0)
  else
    let size : Int := (decimal r.1).length - (decimal r.2).length
    let s := r.scale 10 (-size)
    let x := if s.2 ≤ s.1 then size else size - 1
    let n := (r.scale 10 (places - x)).round
    if n = Nat.pow 10 (places + 1) then (n / 10, x + 1) else (n, x)

def exponentText (width : Nat) (x : Int) : Octets :=
  let digits := decimal x.natAbs
  (if x < 0 then '-' else '+') :: List.replicate (width - digits.length) '0' ++ digits

def scientificText (places : Nat) (always : Bool) (r : Ratio) : Octets :=
  let own := min places placeLimit
  let (n, x) := decimalDigits own r
  withZeros places (pointed own always (decimal n)) ++ 'e' :: exponentText 2 x

/-- A text without zeros at the end of its fraction, and without its point if nothing follows it,
unless the point is always wanted. -/
def withoutZeros (always : Bool) (t : Octets) : Octets :=
  if t.contains '.' then
    match t.reverse.dropWhile (· == '0') with
    | '.' :: u => if always then u.reverse ++ ['.'] else u.reverse
    | u => u.reverse
  else t

/-- So many digits in the shorter of two forms. -/
def generalText (precision : Nat) (always : Bool) (r : Ratio) : Octets :=
  let digits := max precision 1
  let own := min (digits - 1) placeLimit
  let (n, x) := decimalDigits own r
  let strip := fun t => if always then t else withoutZeros false t
  if -4 ≤ x ∧ x < digits then strip (fixedText (digits - 1 - x).toNat always r)
  else strip (withZeros (digits - 1) (pointed own always (decimal n))) ++ 'e' :: exponentText 2 x

/-- How many digits in base 16 there are after the point. -/
def fractionDigits : Nat := 13

def hexadecimalText (precision : Option Nat) (always : Bool) (m : Nat) (e : Int) : Octets :=
  let places := (precision.getD fractionDigits)
  let n := if places < fractionDigits then Ratio.round (m, Nat.pow 16 (fractionDigits - places))
    else m * Nat.pow 16 (places - fractionDigits)
  let digits := pointed places always (Nat.toDigits 16 n)
  let x := if m = 0 then 0 else e + 52
  "0x".toList ++ (if precision.isNone then withoutZeros always digits else digits) ++
    'p' :: exponentText 1 x

/-- The form that a letter asks for. A number that is none, or has no end, looks alike in all. -/
def text (letter : Char) (precision : Option Nat) (always : Bool) : Binary64 → Octets
  | infinite _ => "inf".toList
  | undefined _ => "nan".toList
  | finite _ m e =>
    let places := precision.getD 6
    match letter.toLower with
    | 'f' => fixedText places always (ratio m e)
    | 'e' => scientificText places always (ratio m e)
    | 'g' => generalText places always (ratio m e)
    | _ => hexadecimalText precision always m e

def isFinite : Binary64 → Bool
  | finite .. => true
  | _ => false

end Binary64
end CommandShell.Script
