import CommandShell.Fault.Basic
import CommandShell.Text.Utf8
/-! A stream takes bytes until it runs out of room, or until it refuses. -/
namespace CommandShell

/-- How a stream meets one request: it complies, or keeps the first bytes and then fails. -/
inductive Answer where
  | comply
  | refuse (kept : Nat) (cause : Fault)
  deriving DecidableEq

/-- What has arrived, the room left if there is a limit, and the answers to the next requests.
Once they are used up, the stream complies. -/
structure Stream where
  received : Bytes := []
  room : Option Nat := none
  answers : List Answer := []
  deriving DecidableEq

structure Shortfall where
  written : Nat
  cause : Fault
  deriving DecidableEq

namespace Stream

def keep (s : Stream) (bs : Bytes) : Stream :=
  { s with received := s.received ++ bs, room := s.room.map (· - bs.length) }

def capacity (s : Stream) (n : Nat) : Nat :=
  match s.room with
  | none => n
  | some r => min r n

/-- As many of the bytes as there is room for. -/
def fit (s : Stream) (bs : Bytes) : Stream × Option Shortfall :=
  let n := s.capacity bs.length
  (s.keep (bs.take n), if n < bs.length then some ⟨n, Fault.outOfRoom⟩ else none)

/-- Writing nothing is no request. -/
def write (s : Stream) (bs : Bytes) : Stream × Option Shortfall :=
  if bs.isEmpty then (s, none)
  else match s.answers with
    | [] => s.fit bs
    | .comply :: rest => { s with answers := rest }.fit bs
    | .refuse kept cause :: rest =>
      let n := s.capacity (min kept bs.length)
      ({ s with answers := rest }.keep (bs.take n), some ⟨n, cause⟩)

def flush (s : Stream) : Stream × Option Fault :=
  match s.answers with
  | [] => (s, none)
  | .comply :: rest => ({ s with answers := rest }, none)
  | .refuse _ cause :: rest => ({ s with answers := rest }, some cause)

/-- A text, made to arrive at once. -/
def display (s : Stream) (t : Text) : Stream × Option Fault :=
  match s.write (Utf8.encode t) with
  | (s, some short) => (s, some short.cause)
  | (s, none) => s.flush

end Stream
end CommandShell
