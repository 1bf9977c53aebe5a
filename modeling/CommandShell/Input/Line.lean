import CommandShell.Text.Utf8
/-! Lines of raw input. A line ends with a newline or with the input, and its text leaves out the
newline and one carriage return before it. -/
namespace CommandShell

def newline : UInt8 := 0x0A

def carriageReturn : UInt8 := 0x0D

structure FirstLine where
  content : Bytes
  ended : Bool
  rest : Bytes
  deriving DecidableEq

def firstLine : Bytes → FirstLine
  | [] => ⟨[], false, []⟩
  | b :: bs =>
    if b = newline then ⟨[], true, bs⟩
    else { firstLine bs with content := b :: (firstLine bs).content }

/-- The bytes without a carriage return at their end. -/
def withoutReturn (bs : Bytes) : Bytes :=
  if bs.getLast? = some carriageReturn then bs.dropLast else bs

/-- The bytes that make up the text of the line. -/
def FirstLine.raw (l : FirstLine) : Bytes := if l.ended then withoutReturn l.content else l.content

def FirstLine.text (l : FirstLine) : Text := Utf8.decode l.raw

/-- The text of the next line and the rest of the input; nothing when the input is used up. -/
def nextLine? (bs : Bytes) : Option (Text × Bytes) :=
  if bs.isEmpty then none else some ((firstLine bs).text, (firstLine bs).rest)

end CommandShell
