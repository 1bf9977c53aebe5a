import CommandShell.Text.Basic
/-! UTF-8 read one byte at a time. A sequence that breaks off gives one replacement character and
the byte that broke it is read afresh, so every input has a text. -/
namespace CommandShell.Utf8

/-- A sequence under way: the bits so far, the bytes still missing and the range of the next one. -/
structure Partial where
  value : Nat
  missing : Nat
  low : UInt8 := 0x80
  high : UInt8 := 0xBF
  deriving DecidableEq

abbrev State := Option Partial

def replacement : Char := '\uFFFD'

/-- What a first byte begins: a whole character, a longer sequence, or nothing. -/
inductive Lead where
  | char (c : Char)
  | sequence (p : Partial)
  | malformed

def lead (b : UInt8) : Lead :=
  if b < 0x80 then .char (Char.ofNat b.toNat)
  else if 0xC2 ≤ b ∧ b ≤ 0xDF then .sequence { value := b.toNat - 0xC0, missing := 1 }
  else if b = 0xE0 then .sequence { value := 0, missing := 2, low := 0xA0 }
  else if b = 0xED then .sequence { value := 0xD, missing := 2, high := 0x9F }
  else if 0xE1 ≤ b ∧ b ≤ 0xEF then .sequence { value := b.toNat - 0xE0, missing := 2 }
  else if b = 0xF0 then .sequence { value := 0, missing := 3, low := 0x90 }
  else if b = 0xF4 then .sequence { value := 4, missing := 3, high := 0x8F }
  else if 0xF1 ≤ b ∧ b ≤ 0xF3 then .sequence { value := b.toNat - 0xF0, missing := 3 }
  else .malformed

def start (b : UInt8) : Text × State :=
  match lead b with
  | .char c => ([c], none)
  | .sequence p => ([], some p)
  | .malformed => ([replacement], none)

def Partial.accepts (p : Partial) (b : UInt8) : Bool := p.low ≤ b && b ≤ p.high

def Partial.take (p : Partial) (b : UInt8) : Text × State :=
  let value := p.value * 64 + (b.toNat - 0x80)
  if p.missing ≤ 1 then ([Char.ofNat value], none)
  else ([], some { value, missing := p.missing - 1 })

/-- One byte: the characters it completes and the sequence it leaves open. -/
def step : State → UInt8 → Text × State
  | none, b => start b
  | some p, b =>
    if p.accepts b then p.take b
    else (replacement :: (start b).1, (start b).2)

/-- What the end of the input makes of a sequence under way. -/
def finish : State → Text
  | none => []
  | some _ => [replacement]

def decodeFrom : State → Bytes → Text
  | s, [] => finish s
  | s, b :: bs => (step s b).1 ++ decodeFrom (step s b).2 bs

def decode (bs : Bytes) : Text := decodeFrom none bs

def encode (t : Text) : Bytes := t.flatMap String.utf8EncodeChar

/-- The first place where bytes are no UTF-8. No length means that the input ends too early. -/
structure Malformed where
  index : Nat
  length : Option Nat
  deriving DecidableEq

/-- `index` is where the current character began, `seen` how many bytes of it are read. -/
def checkFrom : State → (index seen : Nat) → Bytes → Option Malformed
  | none, _, _, [] => none
  | some _, index, _, [] => some ⟨index, none⟩
  | none, index, _, b :: bs =>
    match lead b with
    | .char _ => checkFrom none (index + 1) 0 bs
    | .sequence p => checkFrom (some p) index 1 bs
    | .malformed => some ⟨index, some 1⟩
  | some p, index, seen, b :: bs =>
    if p.accepts b then
      match (p.take b).2 with
      | none => checkFrom none (index + seen + 1) 0 bs
      | some q => checkFrom (some q) index (seen + 1) bs
    else some ⟨index, some seen⟩

def check (bs : Bytes) : Option Malformed := checkFrom none 0 0 bs

/-- The text of well-formed bytes only. -/
def decode? (bs : Bytes) : Option Text :=
  if (check bs).isNone then some (decode bs) else none

def Malformed.message (m : Malformed) : Text :=
  match m.length with
  | some n =>
    "invalid utf-8 sequence of " ++ (toString n).toList ++ " bytes from index " ++
      (toString m.index).toList
  | none => "incomplete utf-8 byte sequence from index " ++ (toString m.index).toList

end CommandShell.Utf8
