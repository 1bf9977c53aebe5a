import CommandShell.Text.Basic
/-! Numbers in decimal digits. Only the ASCII digits count as such. -/
namespace CommandShell

def isDecimal (c : Char) : Bool := '0' ≤ c && c ≤ '9'

/-- The number that digits stand for; leading zeros change nothing. -/
def decimalValue (digits : Text) : Nat :=
  digits.foldl (fun n c => n * 10 + (c.toNat - '0'.toNat)) 0

def decimal (n : Nat) : Text := Nat.toDigits 10 n

end CommandShell
