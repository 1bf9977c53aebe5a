import CommandShell.Script.Binary64
/-! The texts that scripts print: escapes after backslashes, and directives after percent signs. -/
namespace CommandShell.Script

def isOctal (c : Char) : Bool := '0' ≤ c && c ≤ '7'

/-- The byte that octal digits stand for. -/
def octalChar (digits : Octets) : Char := Char.ofNat (Numeral.digitsValue 8 digits % 256)

def simpleEscape? : Char → Option Char
  | 'a' => some '\x07'
  | 'b' => some '\x08'
  | 'e' => some '\x1b'
  | 'f' => some '\x0c'
  | 'n' => some '\n'
  | 'r' => some '\r'
  | 't' => some '\t'
  | 'v' => some '\x0b'
  | '\\' => some '\\'
  | _ => none

/-- The character of an escape, read after its backslash, and what follows. An escape that means
nothing leaves the backslash. -/
def escape : Octets → Char × Octets
  | [] => ('\\', [])
  | c :: t =>
    match simpleEscape? c with
    | some d => (d, t)
    | none =>
      if isOctal c then
        let digits := ((c :: t).take 3).takeWhile isOctal
        (octalChar digits, (c :: t).drop digits.length)
      else ('\\', c :: t)

/-- A text with its escapes replaced, and whether it asks for no more output. A zero may stand before
octal digits. -/
def unescaped : Nat → Octets → Octets × Bool
  | 0, _ => ([], false)
  | _, [] => ([], false)
  | _ + 1, '\\' :: 'c' :: _ => ([], true)
  | n + 1, '\\' :: t =>
    let t := match t with
      | '0' :: d :: u => if isOctal d then d :: u else '0' :: d :: u
      | t => t
    let (c, t) := escape t
    let (rest, final) := unescaped n t
    (c :: rest, final)
  | n + 1, c :: t =>
    let (rest, final) := unescaped n t
    (c :: rest, final)

def unescape (t : Octets) : Octets × Bool := unescaped (t.length + 1) t

def echoText (args : List Octets) : Octets :=
  let (newline, args) := match args with
    | ['-', 'n'] :: rest => (false, rest)
    | args => (true, args)
  let (t, final) := joined args
  if newline && !final then t ++ ['\n'] else t
where
  /-- Each argument has its own escapes. -/
  joined : List Octets → Octets × Bool
    | [] => ([], false)
    | a :: rest =>
      let (t, final) := unescape a
      if final || rest.isEmpty then (t, final)
      else
        let (u, final) := joined rest
        (t ++ ' ' :: u, final)

structure Layout where
  left : Bool := false
  zeros : Bool := false
  plus : Bool := false
  space : Bool := false
  marked : Bool := false
  width : Nat := 0
  precision : Option Nat := none
  deriving DecidableEq

namespace Layout

/-- The flags at the start of a directive, and what follows. -/
def flags : Octets → Layout → Layout × Octets
  | '-' :: t, l => flags t { l with left := true }
  | '0' :: t, l => flags t { l with zeros := true }
  | '+' :: t, l => flags t { l with plus := true }
  | ' ' :: t, l => flags t { l with space := true }
  | '#' :: t, l => flags t { l with marked := true }
  | t, l => (l, t)

def pad (l : Layout) (t : Octets) : Octets :=
  let gap := List.replicate (l.width - t.length) ' '
  if l.left then t ++ gap else gap ++ t

def text (l : Layout) (t : Octets) : Octets :=
  l.pad (match l.precision with
    | some p => t.take p
    | none => t)

def sign (l : Layout) (negative : Bool) : Octets :=
  if negative then ['-'] else if l.plus then ['+'] else if l.space then [' '] else []

/-- A number whose sign stays in front of zeros that fill it up. -/
def filled (l : Layout) (zeros : Bool) (lead body : Octets) : Octets :=
  if zeros && l.zeros && !l.left then
    lead ++ List.replicate (l.width - lead.length - body.length) '0' ++ body
  else l.pad (lead ++ body)

/-- The digits of a whole number. Zero has none if no digit is asked for. -/
def digits (l : Layout) (base n : Nat) : Octets :=
  let own := if n = 0 then [] else Nat.toDigits base n
  let own := List.replicate (l.precision.getD 1 - own.length) '0' ++ own
  if l.marked && base = 8 && own.head? != some '0' then '0' :: own else own

def integer (l : Layout) (n : Int) : Octets :=
  l.filled l.precision.isNone (l.sign (n < 0)) (l.digits 10 n.natAbs)

def natural (l : Layout) (base n : Nat) : Octets :=
  let lead := if l.marked && base = 16 && n ≠ 0 then "0x".toList else []
  l.filled l.precision.isNone lead (l.digits base n)

/-- A number with a fraction. The mark of base 16 stays in front of zeros. -/
def fraction (l : Layout) (letter : Char) (x : Binary64) : Octets :=
  let body := x.text letter l.precision l.marked
  let lead := l.sign x.isNegative
  match body with
  | '0' :: 'x' :: t => l.filled true (lead ++ "0x".toList) t
  | t => l.filled x.isFinite lead t

end Layout

inductive PrintEnd where
  | final
  | refused (message : Octets)

structure Printing where
  printed : List Octets := []
  arguments : List Octets
  used : Bool := false
  misfits : List Octets := []

abbrev Print := ExceptT PrintEnd (StateM Printing)

namespace Print

def put (t : Octets) : Print Unit := modify fun p => { p with printed := t :: p.printed }

def misfit (t : Octets) (reason : String) : Print Unit := modify fun p =>
  { p with misfits := (t ++ ": ".toList ++ reason.toList) :: p.misfits }

def argument? : Print (Option Octets) := do
  let p ← get
  match p.arguments with
  | [] => pure none
  | a :: rest =>
    set { p with arguments := rest, used := true }
    pure (some a)

/-- Tells if not all of an argument is a number, or if it is out of range. -/
def check (t rest : Octets) (inRange : Bool) : Print Unit := do
  if !rest.isEmpty then
    misfit t (if rest.length = t.length then "expected numeric value" else "not completely converted")
  else if !inRange then misfit t "Numerical result out of range"

/-- The character after a quote at the start of an argument. -/
def quotedChar? : Octets → Option Char
  | '\'' :: t | '"' :: t => some (t.headD '\x00')
  | _ => none

def integer : Print Int := do
  let some t ← argument? | return 0
  if let some c := quotedChar? t then return c.toNat
  let n := Numeral.read none t
  check t n.rest (Numeral.inRange n.value)
  return Numeral.clamp n.value

/-- A whole number without a sign. A negative one is what is missing to the modulus. -/
def natural : Print Nat := do
  let some t ← argument? | return 0
  if let some c := quotedChar? t then return c.toNat
  let n := Numeral.read none t
  let inRange := n.value.natAbs < Numeral.modulus
  check t n.rest inRange
  return if inRange then (n.value % (Numeral.modulus : Int)).toNat else Numeral.modulus - 1

def fraction : Print Binary64 := do
  let some t ← argument? | return .zero false
  if let some c := quotedChar? t then return (Binary64.nearest false (c.toNat, 1)).1
  let x := Binary64.read t
  check t x.rest x.inRange
  return x.value

/-- A number at the start of a text, or an argument where a star stands for it. -/
def measure? (t : Octets) : Print (Option Int × Octets) := do
  match t with
  | '*' :: t =>
    let n ← integer
    return (some (n.bmod 4294967296), t)
  | t =>
    let digits := t.takeWhile isDecimal
    return ((Octets.number? digits).map Int.ofNat, t.drop digits.length)

def measures (l : Layout) (t : Octets) : Print (Layout × Octets) := do
  let (width, t) ← measure? t
  let n := width.getD 0
  let l := { l with width := n.natAbs, left := l.left || n < 0 }
  match t with
  | '.' :: t =>
    let (precision, t) ← measure? t
    let p := precision.getD 0
    return ({ l with precision := if p < 0 then none else some p.toNat }, t)
  | t => return (l, t)

/-- What a directive of a letter prints. Only some letters have a meaning. -/
def conversion? (l : Layout) (letter : Char) : Option (Print Unit) :=
  let upper := letter.isUpper
  let shown := fun t : Octets => put (if upper then t.map Char.toUpper else t)
  match letter with
  | 's' => some do put (l.text ((← argument?).getD []))
  | 'c' => some do put (l.pad [(((← argument?).getD []).head?).getD '\x00'])
  | 'b' => some do
    let (t, final) := unescape ((← argument?).getD [])
    put (l.text t)
    if final then throw .final
  | 'd' | 'i' => some do put (l.integer (← integer))
  | 'u' => some do put (l.natural 10 (← natural))
  | 'o' => some do put (l.natural 8 (← natural))
  | 'x' | 'X' => some do shown (l.natural 16 (← natural))
  | 'a' | 'A' | 'e' | 'E' | 'f' | 'F' | 'g' | 'G' => some do
    shown (l.fraction letter (← fraction))
  | _ => none

/-- A directive after its percent sign. Gives back what follows it. -/
def directive (t : Octets) : Print Octets := do
  let (l, u) := Layout.flags t {}
  let (l, u) ← measures l u
  match u with
  | [] => throw (.refused "missing format character".toList)
  | letter :: rest =>
    match conversion? l letter with
    | some act =>
      act
      pure rest
    | none =>
      let own := t.take (t.length - rest.length)
      throw (.refused ('%' :: own ++ ": invalid directive".toList))

/-- One pass through a format. -/
def pass : Nat → Octets → Print Unit
  | 0, _ => pure ()
  | _, [] => pure ()
  | n + 1, '\\' :: t => do
    let (c, t) := escape t
    put [c]
    pass n t
  | n + 1, '%' :: '%' :: t => do
    put ['%']
    pass n t
  | n + 1, '%' :: t => do pass n (← directive t)
  | n + 1, c :: t => do
    put [c]
    pass n t

/-- A format is used again as long as there are arguments for it. -/
def passes (format : Octets) : Nat → Print Unit
  | 0 => pure ()
  | n + 1 => do
    pass (format.length + 1) format
    let p ← get
    if p.used && !p.arguments.isEmpty then passes format n

end Print

structure Printout where
  text : Octets
  misfits : List Octets
  refusal : Option Octets

def printText (format : Octets) (arguments : List Octets) : Printout :=
  let (result, p) := (Print.passes format (arguments.length + 1)).run { arguments }
  { text := p.printed.reverse.flatten
    misfits := p.misfits.reverse
    refusal := match result with
      | .error (.refused message) => some message
      | _ => none }

end CommandShell.Script
