import CommandShell.Script.Pattern
/-! Splitting what words stand for into fields. -/
namespace CommandShell.Script

inductive Atom where
  | glyph (g : Glyph)
  /-- Here is a field, if only an empty one. -/
  | mark
  deriving DecidableEq

/-- Whether and how a stretch of a word can be split. -/
inductive Region where
  | fixed
  | loose
  | arguments
  deriving DecidableEq

structure Segment where
  region : Region
  atoms : List Atom

def Atoms.glyphs (as : List Atom) : List Glyph := as.filterMap fun a =>
  match a with
  | .glyph g => some g
  | .mark => none

namespace Segment

def ofGlyphs (region : Region) (gs : List Glyph) : Segment := ⟨region, gs.map .glyph⟩

def ofText (quoted : Bool) (t : Octets) : Segment :=
  ofGlyphs (if quoted then .fixed else .loose) (t.map fun c => ⟨c, quoted⟩)

end Segment

namespace Segments

def glyphs (ss : List Segment) : List Glyph := Atoms.glyphs (ss.flatMap (·.atoms))

def text (ss : List Segment) : Octets := Glyphs.text (glyphs ss)

end Segments

structure Splitting where
  separators : Octets
  room : Option Nat
  fields : List (List Atom) := []
  current : List Atom := []
  /-- Whether a field has ended with a blank, after which one other separator may still come. -/
  ended : Bool := false
  /-- How much of the last field is left when separators at its end are dropped. -/
  kept : Option Nat := none
  region : Region := .fixed
  before : Region := .fixed

namespace Splitting

def add (a : Atom) (s : Splitting) : Splitting := { s with current := a :: s.current }

/-- An atom of the last field, which goes on to the end. -/
def stepLast (a : Atom) (separates blank : Bool) (s : Splitting) : Splitting :=
  let s :=
    if blank then { s with kept := s.kept.or (some s.current.length) }
    else if separates && s.ended then { s with ended := false }
    else { s with kept := none, ended := false }
  s.add a

/-- A separator that may end a field. -/
def stepSeparator (a : Atom) (blank : Bool) (s : Splitting) : Splitting :=
  let s := if s.region = .arguments ∨ s.before = .arguments then s else { s with ended := blank }
  if s.current.isEmpty && s.ended then { s with ended := false }
  else match s.room with
    | some 1 => { s with room := some 0, kept := some s.current.length }.add a
    | room =>
      { s with room := room.map (· - 1), fields := s.current.reverse :: s.fields, current := [] }

def step (s : Splitting) (a : Atom) : Splitting :=
  match a with
  | .mark => s.add a
  | .glyph g =>
    let separates := g.char == gap || (s.region == .loose && s.separators.contains g.char)
    let blank := separates && (g.char == gap || Octets.isBlank g.char || g.char == '\n')
    if s.room = some 0 then s.stepLast a separates blank
    else if s.ended then
      if blank then s
      else if separates then { s with ended := false }
      else { s with ended := false }.add a
    else if separates then s.stepSeparator a blank
    else s.add a

def segment (s : Splitting) (g : Segment) : Splitting :=
  match g.region with
  | .fixed => { s with current := g.atoms.reverse ++ s.current }
  | region =>
    g.atoms.foldl step { s with region, before := s.region, ended := false }

/-- All fields. After arguments there is always one more. -/
def finish (s : Splitting) : List (List Atom) :=
  let last :=
    match s.kept with
    | some n => s.current.reverse.take n
    | none => s.current.reverse
  if s.region = .arguments ∨ !last.isEmpty then (last :: s.fields).reverse else s.fields.reverse

end Splitting

/-- The fields of a word, of which there may be a limited number. -/
def splitFields (separators : Octets) (room : Option Nat) (ss : List Segment) :
    List (List Atom) :=
  (ss.foldl Splitting.segment { separators, room }).finish

end CommandShell.Script
