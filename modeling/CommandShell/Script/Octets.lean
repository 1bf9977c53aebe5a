import CommandShell.Text.Decimal
import CommandShell.Text.Utf8
/-! Raw data as characters, one for each byte, so that it can be taken apart like text. -/
namespace CommandShell

abbrev Octets := List Char

namespace Octets

def ofBytes (bs : Bytes) : Octets := bs.map fun b => Char.ofNat b.toNat

def toBytes (t : Octets) : Bytes := t.map fun c => UInt8.ofNat c.toNat

def ofText (t : Text) : Octets := ofBytes (Utf8.encode t)

def toText (t : Octets) : Text := Utf8.decode (toBytes t)

def isNameStart (c : Char) : Bool := ('a' ≤ c && c ≤ 'z') || ('A' ≤ c && c ≤ 'Z') || c == '_'

def isNameChar (c : Char) : Bool := isNameStart c || isDecimal c

def isName : Octets → Bool
  | [] => false
  | c :: t => isNameStart c && t.all isNameChar

def isBlank (c : Char) : Bool := c == ' ' || c == '\t'

/-- Blanks, and what starts a new line or page. -/
def isSpace (c : Char) : Bool := c == ' ' || ('\t' ≤ c && c ≤ '\r')

/-- The number that a run of decimal digits stands for. -/
def number? (t : Octets) : Option Nat :=
  if !t.isEmpty && t.all isDecimal then some (decimalValue t) else none

/-- The parts before and after the first `c`. -/
def cut? (c : Char) : Octets → Option (Octets × Octets)
  | [] => none
  | d :: t => if d = c then some ([], t) else (cut? c t).map fun (a, b) => (d :: a, b)

/-- Whether a text comes before another, or is the same. -/
def inOrder : Octets → Octets → Bool
  | [], _ => true
  | _ :: _, [] => false
  | c :: s, d :: t => c.toNat < d.toNat || (c == d && inOrder s t)

def isStrictlyBefore (s t : Octets) : Bool := inOrder s t && s != t

def unwords (ts : List Octets) : Octets := Text.join [' '] ts

/-- Stretches of text, each in quotes of one kind: double ones for single quotes, single ones for
everything else. -/
def quotedFrom : Nat → Octets → Octets
  | 0, _ => []
  | n + 1, t =>
    let plain := t.takeWhile (· != '\'')
    let rest := t.drop plain.length
    let quotes := rest.takeWhile (· == '\'')
    let first := ['\''] ++ plain ++ ['\'']
    if rest.isEmpty then first
    else
      let second := ['"'] ++ quotes ++ ['"']
      let rest := rest.drop quotes.length
      first ++ second ++ if rest.isEmpty then [] else quotedFrom n rest

/-- A text in quotes, such that a script reads it as one word. -/
def quoted (t : Octets) : Octets := quotedFrom (t.length + 1) t

/-- A text followed by blanks up to a width. -/
def padded (width : Nat) (t : Octets) : Octets := t ++ List.replicate (width - t.length) ' '

end Octets
end CommandShell
