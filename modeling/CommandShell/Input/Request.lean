import CommandShell.Input.Line
import CommandShell.Output.Stream
/-! Asking for a line: the prompt is shown first, and input is taken only once it is. -/
namespace CommandShell

inductive Reply where
  | line (text : Text)
  | endOfInput
  | interrupted
  | failed (cause : Fault)
  deriving DecidableEq

/-- A request in a state that holds the output of the prompt and the input. -/
def request {σ : Type} (prompt : σ → σ × Option Fault) (take : σ → σ × Reply) (s : σ) : σ × Reply :=
  match prompt s with
  | (s, some cause) => (s, .failed cause)
  | (s, none) => take s

/-- Input that is all there, beside the stream that gets the prompts. -/
structure Dialogue where
  input : Bytes
  prompts : Stream
  deriving DecidableEq

namespace Dialogue

def prompt (text : Text) (d : Dialogue) : Dialogue × Option Fault :=
  ({ d with prompts := (d.prompts.display text).1 }, (d.prompts.display text).2)

def take (d : Dialogue) : Dialogue × Reply :=
  match nextLine? d.input with
  | none => (d, .endOfInput)
  | some (text, rest) => ({ d with input := rest }, .line text)

def ask (text : Text) (d : Dialogue) : Dialogue × Reply := request (prompt text) take d

/-- The replies to one request after another. -/
def askAll : List Text → Dialogue → Dialogue × List Reply
  | [], d => (d, [])
  | text :: texts, d =>
    let (d, reply) := d.ask text
    let (d, replies) := askAll texts d
    (d, reply :: replies)

end Dialogue
end CommandShell
