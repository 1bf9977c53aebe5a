import CommandShell.Text.Basic
import CommandShell.Text.Printable
/-! Text between double quotes, with escapes for all that would not show as itself. -/
namespace CommandShell

/-- The lower-case hexadecimal digits of a number. -/
def hexDigits (n : Nat) : Text := Nat.toDigits 16 n

/-- How one character is written between double quotes. -/
def escapeChar (c : Char) : Text :=
  if c = '\x00' then ['\\', '0']
  else if c = '\t' then ['\\', 't']
  else if c = '\r' then ['\\', 'r']
  else if c = '\n' then ['\\', 'n']
  else if c = '"' ∨ c = '\\' then ['\\', c]
  else if isExtender c ∨ isPrintable c = false then ['\\', 'u', '\x7b'] ++ hexDigits c.toNat ++ ['\x7d']
  else [c]

def Text.quoted (t : Text) : Text := ['"'] ++ t.flatMap escapeChar ++ ['"']

def Text.quotedList (ts : List Text) : Text :=
  ['['] ++ Text.join ", " (ts.map Text.quoted) ++ [']']

end CommandShell
