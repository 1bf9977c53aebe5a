import CommandShell.Session.Execute
import CommandShell.Input.Request
/-! The loop that asks for lines and executes them. -/
namespace CommandShell

inductive Source where
  /-- Replies that are settled in advance, after prompts that are shown or not. -/
  | replies (rest : List Reply) (prompting : Bool := true)
  | memory (rest : Bytes)
  /-- The input of the process, which its programs read too. It is read in blocks, and what is
  `ahead` of the lines is out of the programs' reach. -/
  | standard (ahead : Bytes)
  deriving DecidableEq

/-- Whether the prompts go to the shell's own output. -/
def Source.prompting : Source → Bool
  | .replies _ prompting => prompting
  | _ => true

/-- How many lines a file may gain at most while its lines are executed. -/
def growthLimit : Nat := 1000000

/-- More than the lines that a source can give. -/
def Source.bound (s : Source) (w : World) : Nat :=
  match s with
  | .replies rest _ => rest.length + 1
  | .memory bs => bs.length + 1
  | .standard ahead =>
    ahead.length + w.input.length w.disk + 1 +
      match w.input with
      | .file _ => growthLimit
      | _ => 0

def blockLength : Nat := 8192

/-- Reads whole blocks until a newline is there or the input ends. Input that is not open has
ended. -/
def fill (d : Disk) : Nat → Bytes → Intake → Bytes × Intake × Option Fault
  | 0, ahead, i => (ahead, i, none)
  | blocks + 1, ahead, i =>
    if ahead.contains newline then (ahead, i, none)
    else match i.read d blockLength with
      | (.error cause, i) => (ahead, i, if cause = badDescriptor then none else some cause)
      | (.ok [], i) => (ahead, i, none)
      | (.ok bs, i) => fill d blocks (ahead ++ bs) i

namespace Shell

def noteMalformed (bs : Bytes) (sh : Shell) : Shell :=
  match Utf8.check (firstLine bs).raw with
  | none => sh
  | some m => sh.note (.malformedLine m)

/-- The next line of an input that is all there. -/
def takeLine (bs : Bytes) (sh : Shell) : Shell × Bytes × Reply :=
  match nextLine? bs with
  | none => (sh, bs, .endOfInput)
  | some (text, rest) => (sh.noteMalformed bs, rest, .line text)

def take : Shell × Source → (Shell × Source) × Reply
  | (sh, .replies [] prompting) => ((sh, .replies [] prompting), .endOfInput)
  | (sh, .replies (r :: rest) prompting) => ((sh, .replies rest prompting), r)
  | (sh, .memory bs) =>
    let (sh, rest, reply) := sh.takeLine bs
    ((sh, .memory rest), reply)
  | (sh, .standard ahead) =>
    let w := sh.world
    let (ahead, input, fault) := fill w.disk (w.input.length w.disk + 1) ahead w.input
    let sh := sh.mapWorld ({ · with input })
    match fault with
    | some cause => ((sh, .standard []), .failed cause)
    | none =>
      let (sh, rest, reply) := sh.takeLine ahead
      ((sh, .standard rest), reply)

/-- Shows a prompt at once, if the source has it shown. -/
def prompt (text : Text) : Shell × Source → (Shell × Source) × Option Fault
  | (sh, source) =>
    if source.prompting then
      match World.print .own [text] sh.world with
      | (world, some cause) => (({ sh with world }, source), some cause)
      | (world, none) =>
        let (world, fault) := world.flush
        (({ sh with world }, source), fault)
    else ((sh, source), none)

/-- Asks for line after line until the session ends, the input does, or asking fails. Each line
that is executed uses up one of so many. -/
def loop (run : Runner) (text : Text) : Nat → Shell → Source → Shell × Option Fault
  | 0, sh, _ => (sh, none)
  | lines + 1, sh, source =>
    if sh.session.exiting || sh.world.killedBy.isSome then (sh, none)
    else match request (prompt text) take (sh, source) with
      | ((sh, source), .line line) => loop run text lines (sh.execute run line).1 source
      | ((sh, _), .endOfInput) => (sh.note .endOfInput, none)
      | ((sh, _), .interrupted) => (sh.note .interrupted, none)
      | ((sh, _), .failed cause) => (sh, some cause)

def repl (run : Runner) (text : Text) (sh : Shell) (source : Source) : Shell × Option Fault :=
  loop run text (source.bound sh.world) sh source

end Shell
end CommandShell
