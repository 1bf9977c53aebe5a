import CommandShell.Text.Basic
import CommandShell.Text.Blank
/-! A line is split into words at unquoted blanks. Quotes and backslashes are used up here, and a
quote left open ends with the line. -/
namespace CommandShell

inductive Mode where
  | plain
  | escaped
  | single
  | double
  | doubleEscaped
  deriving DecidableEq

/-- The scanner between two characters: letters and words are kept latest first. -/
structure Scanner where
  mode : Mode := .plain
  word : Text := []
  words : List Text := []
  deriving DecidableEq

namespace Scanner

def push (s : Scanner) (c : Char) : Scanner := { s with word := c :: s.word }

/-- The word under way is complete; an empty one is no word. -/
def endWord (s : Scanner) : Scanner :=
  if s.word.isEmpty then s else { s with word := [], words := s.word.reverse :: s.words }

def step (s : Scanner) (c : Char) : Scanner :=
  match s.mode with
  | .plain =>
    if isBlank c then s.endWord
    else if c = '\'' then { s with mode := .single }
    else if c = '"' then { s with mode := .double }
    else if c = '\\' then { s with mode := .escaped }
    else s.push c
  | .escaped => { s.push c with mode := .plain }
  | .single => if c = '\'' then { s with mode := .plain } else s.push c
  | .double =>
    if c = '"' then { s with mode := .plain }
    else if c = '\\' then { s with mode := .doubleEscaped }
    else s.push c
  | .doubleEscaped =>
    if c = '"' ∨ c = '\\' then { s.push c with mode := .double }
    else { (s.push '\\').push c with mode := .double }

/-- The words at the end of the line. A last backslash stays only between double quotes. -/
def finish (s : Scanner) : List Text :=
  let s := if s.mode = .doubleEscaped then s.push '\\' else s
  s.endWord.words.reverse

end Scanner

def tokens (line : Text) : List Text := (line.foldl Scanner.step {}).finish

end CommandShell
