import CommandShell.Text.Decimal
/-! How much is written to the log. -/
namespace CommandShell

inductive Level where
  | off
  | error
  | warn
  | info
  | debug
  | trace
  deriving DecidableEq

namespace Level

def all : List Level := [off, error, warn, info, debug, trace]

def name : Level → Text
  | off => "OFF"
  | error => "ERROR"
  | warn => "WARN"
  | info => "INFO"
  | debug => "DEBUG"
  | trace => "TRACE"

/-- Each level admits its own records and those of the levels before it. -/
def rank : Level → Nat
  | off => 0
  | error => 1
  | warn => 2
  | info => 3
  | debug => 4
  | trace => 5

/-- Whether a log at level `l` takes a record of level `r`. -/
def admits (l r : Level) : Bool := r.rank ≤ l.rank

def color : Level → Nat
  | error => 31
  | warn => 33
  | info => 34
  | debug => 36
  | off | trace => 37

def paint (n : Nat) : Text := "\x1b[" ++ decimal n ++ "m"

/-- The name of the level as records bear it, a space included. -/
def tag (colored : Bool) (l : Level) : Text :=
  let t := "[" ++ l.name ++ "] "
  if colored then paint 0 ++ paint l.color ++ t ++ paint 0 else t

/-- The level of a name, whose ASCII letters may be of either case. -/
def ofName? (t : Text) : Option Level := all.find? (·.name == t.map Char.toUpper)

theorem ofName?_name (l : Level) : ofName? l.name = some l := by cases l <;> decide

end Level
end CommandShell
