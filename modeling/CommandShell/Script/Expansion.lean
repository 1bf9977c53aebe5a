import CommandShell.Script.Arithmetic
import CommandShell.Script.Fields
/-! What words stand for: parameters, expressions and the output of commands take their places, then
what was not quoted is split into fields and matched against file names. -/
namespace CommandShell.Script

structure Manner where
  fields : Bool := false
  assigning : Bool := false
  tilde : Bool := false
  loose : Bool := false

namespace Context

def joined (separator : Octets) (quoted : Bool) (c : Context) : List Glyph :=
  (Text.join separator c.arguments).map fun ch => ⟨ch, quoted⟩

/-- The glyphs that a parameter stands for, if it has a value. -/
def parameter? (name : Octets) (quoted fields : Bool) (c : Context) : Option (List Glyph) :=
  let plain := fun t : Octets => t.map fun ch => (⟨ch, quoted⟩ : Glyph)
  let number := fun n : Nat => plain (decimal n)
  let own := match c.value? "IFS".toList with
    | some seps => seps.take 1
    | none => [' ']
  match name with
  | ['@'] =>
    if fields && (quoted || (c.value? "IFS".toList).isSome) then
      some (c.joined [gap] quoted)
    else some (c.joined own quoted)
  | ['*'] =>
    if fields && !quoted && (c.value? "IFS".toList).isSome then some (c.joined [gap] quoted)
    else some (c.joined own quoted)
  | ['#'] => some (number c.arguments.length)
  | ['?'] => some (number c.status)
  | ['$'] => some (number c.root)
  | ['!'] => c.background.map number
  | ['-'] => some (plain (Flags.letters c.flags))
  | _ =>
    match Octets.number? name with
    | some 0 => some (plain c.name)
    | some n => (c.arguments[n - 1]?).map plain
    | none => (c.value? name).map plain

def home? (user : Octets) (c : Context) : Option Octets :=
  if user.isEmpty then c.value? "HOME".toList
  else if user = "root".toList then some "/root".toList
  else none

end Context

/-- The value of a parameter as a segment. All arguments in quotes stay apart, if there are any. -/
def Context.segment (name : Octets) (quoted : Bool) (gs : List Glyph) (c : Context) : Segment :=
  let region : Region :=
    if !quoted then .loose
    else if name == ['@'] && !c.arguments.isEmpty then .arguments
    else .fixed
  .ofGlyphs region gs

/-- The user's name after a tilde, and what follows it. -/
def tildeName? (assigning : Bool) : Word → Option (Octets × Word)
  | [] => some ([], [])
  | .char c false :: w =>
    if c = '/' ∨ (assigning ∧ c = ':') then some ([], .char c false :: w)
    else (tildeName? assigning w).map fun (t, rest) => (c :: t, rest)
  | _ => none

/-- The characters at the start of a word that are not quoted. -/
def looseRun : Word → Octets × Word
  | .char c false :: w => (c :: (looseRun w).1, (looseRun w).2)
  | w => ([], w)

def withoutNewlines (t : Octets) : Octets := (t.reverse.dropWhile (· == '\n')).reverse

namespace Effect

def unsetParameter {α : Type} (name message : Octets) : Effect α :=
  fail (name ++ ": ".toList ++ message)

/-- The value of a parameter that has to be there if that is asked for. -/
def parameter (name : Octets) (quoted fields : Bool) : Effect (Option (List Glyph)) := do
  let c ← context
  match c.parameter? name quoted fields with
  | some gs => pure (some gs)
  | none =>
    if c.isOn .nounset then unsetParameter name "parameter not set".toList
    pure none

end Effect

open Effect

section
variable (output : Statement → Effect Octets) (inner : Manner → Word → Effect (List Segment))

def edited (m : Manner) (name : Octets) (strict : Bool) (edit : Edit) (w : Word) (quoted : Bool) :
    Effect (List Segment) := do
  let c ← context
  let value := c.parameter? name quoted m.fields
  let asIs := fun gs => [c.segment name quoted gs]
  let plain := do return Segments.text (← inner { tilde := true } w)
  let instead := inner { m with tilde := true, loose := !quoted } w
  let there := value.filter fun gs => !(strict && gs.isEmpty)
  match edit, there with
  | .fallback, some gs | .assign, some gs | .demand, some gs => pure (asIs gs)
  | .fallback, none | .instead, some _ => instead
  | .instead, none => pure []
  | .assign, none =>
    assign name (← plain)
    return asIs (((← context).parameter? name quoted m.fields).getD [])
  | .demand, none =>
    let message ← plain
    if w.isEmpty then
      unsetParameter name
        ("parameter not set".toList ++ if strict then " or null".toList else [])
    else unsetParameter name message
  | .trimStart longest, _ => trim true longest
  | .trimEnd longest, _ => trim false longest
where
  trim (start longest : Bool) : Effect (List Segment) := do
    match ← parameter name quoted m.fields with
    | none => pure []
    | some gs =>
      let p := Segments.glyphs (← inner { tilde := true } w)
      let t := trimmed start longest p (Glyphs.text gs)
      pure [(← context).segment name quoted (t.map fun c => ⟨c, quoted⟩)]

def piece (m : Manner) : Piece → Effect (List Segment)
  | .char c quoted =>
    pure [.ofGlyphs (if m.loose && !quoted then .loose else .fixed) [⟨c, quoted⟩]]
  | .mark => pure [⟨.fixed, [.mark]⟩]
  | .parameter name quoted => do
    match ← parameter name quoted m.fields with
    | some gs => pure [(← context).segment name quoted gs]
    | none => pure []
  | .length name quoted => do
    let gs ← parameter name quoted (m.fields && (← context).separators ≠ [])
    pure [.ofText quoted (decimal ((gs.map (·.length)).getD 0))]
  | .edited name strict edit w quoted => edited inner m name strict edit w quoted
  | .misshapen => fail "Bad substitution".toList
  | .output s quoted => do pure [.ofText quoted (withoutNewlines (← output s))]
  | .arithmetic w quoted => do
    let t := Segments.text (← inner {} w)
    pure [.ofText quoted (toString (← Arithmetic.value t)).toList]

/-- The segments of a word. `named` tells whether the sign of equality has been seen, and `inside`
whether quotes are open. -/
def pieces (m : Manner) : Nat → Bool → Bool → Bool → Word → Effect (List Segment)
  | 0, _, _, _, _ => pure []
  | _, _, _, _, [] => pure []
  | n + 1, tilde, named, inside, p :: w => do
    match p, w with
    | .mark, .parameter ['@'] true :: .mark :: w =>
      if inside then
        let w := .parameter ['@'] true :: .mark :: w
        return ⟨.fixed, [.mark]⟩ :: (← pieces m n false named false w)
      let ss ← piece output inner m (.parameter ['@'] true)
      return ss ++ (← pieces m n false named false w)
    | .mark, w => return ⟨.fixed, [.mark]⟩ :: (← pieces m n false named (!inside) w)
    | .char c false, w =>
      if tilde && c == '~' then
        if let some (user, rest) := tildeName? m.assigning w then
          if let some home := (← context).home? user then
            return .ofText true home :: (← pieces m n false named inside rest)
      if m.loose && !m.assigning then
        let (t, rest) := looseRun w
        return .ofText false (c :: t) :: (← pieces m n false named inside rest)
      let tilde := m.assigning && (c == ':' || (!named && c == '='))
      let ss ← piece output inner m (.char c false)
      return ss ++ (← pieces m n tilde (named || c == '=') inside w)
    | p, w =>
      let ss ← piece output inner m p
      return ss ++ (← pieces m n false named inside w)

end

section
variable (output : Statement → Effect Octets)

/-- Words that are in one another so many times. -/
def segmentsAt : Nat → Manner → Word → Effect (List Segment)
  | 0, _, _ => pure []
  | n + 1, m, w => pieces output (segmentsAt n) m (w.length + 1) m.tilde false false w

def segments (m : Manner) (w : Word) : Effect (List Segment) := segmentsAt output 10000 m w

def fieldsOf (w : Word) : Effect (List Octets) := do
  let ss ← segments output { fields := true, tilde := true } w
  let c ← context
  let d ← disk
  let fields := (splitFields c.separators none ss).map Atoms.glyphs
  if c.isOn .noglob then return fields.map Glyphs.text
  return fields.flatMap (pathnames d c.place)

def allFields : List Word → Effect (List Octets)
  | [] => pure []
  | w :: ws => do return (← fieldsOf output w) ++ (← allFields ws)

def wordText (w : Word) : Effect Octets := do
  return Segments.text (← segments output { tilde := true } w)

def assignmentText (w : Word) : Effect Octets := do
  return Segments.text (← segments output { assigning := true } w)

def documentText (w : Word) : Effect Octets := do
  return Segments.text (← segments output {} w)

/-- A pattern, in which what is quoted stands for itself. -/
def patternOf (w : Word) : Effect (List Glyph) := do
  return Segments.glyphs (← segments output { tilde := true } w)

end
end CommandShell.Script
