import CommandShell.Disk.Walk
import CommandShell.Script.Octets
/-! Patterns of file names and values. -/
namespace CommandShell.Script

/-- A character, and whether it stands for itself because it was quoted. -/
structure Glyph where
  char : Char
  quoted : Bool
  deriving DecidableEq

namespace Glyph

def is (c : Char) (g : Glyph) : Bool := g.char == c && !g.quoted

end Glyph

def Glyphs.text (gs : List Glyph) : Octets := gs.map (·.char)

def Glyphs.plain (t : Octets) : List Glyph := t.map fun c => ⟨c, false⟩

/-- A backslash that came with a value quotes the character after it, as far as patterns go. -/
def Glyphs.unescape : List Glyph → List Glyph
  | [] => []
  | g :: gs =>
    if g.is '\\' then
      match gs with
      | [] => [⟨'\\', true⟩]
      | h :: rest => ⟨h.char, true⟩ :: unescape rest
    else g :: unescape gs

inductive Member where
  | range (low high : Char)
  | kind (p : Char → Bool)

/-- Bytes are numbers with a sign here. -/
def signedValue (c : Char) : Int := if c.toNat < 128 then c.toNat else (c.toNat : Int) - 256

def Member.contains (c : Char) : Member → Bool
  | range low high => signedValue low ≤ signedValue c && signedValue c ≤ signedValue high
  | kind p => p c

def isGraph (c : Char) : Bool := '!' ≤ c && c ≤ '~'

def kinds : List (String × (Char → Bool)) :=
  [("alnum", Char.isAlphanum), ("alpha", Char.isAlpha), ("blank", Octets.isBlank),
   ("cntrl", fun c => c < ' ' || c == '\x7f'), ("digit", Char.isDigit), ("graph", isGraph),
   ("lower", Char.isLower), ("print", fun c => c == ' ' || isGraph c),
   ("punct", fun c => isGraph c && !c.isAlphanum), ("space", Octets.isSpace),
   ("upper", Char.isUpper),
   ("xdigit", fun c => c.isDigit || ('a' ≤ c && c ≤ 'f') || ('A' ≤ c && c ≤ 'F'))]

/-- The kind named at the start, after an opening bracket, and what follows it. -/
def kind? (gs : List Glyph) : Option ((Char → Bool) × List Glyph) :=
  kinds.findSome? fun (name, p) =>
    let name := (":" ++ name ++ ":]").toList
    if (Glyphs.plain name).isPrefixOf gs then some (p, gs.drop name.length) else none

/-- The members of a set up to its closing bracket, which may be its first member. -/
def members : Nat → Bool → List Glyph → Option (List Member × List Glyph)
  | 0, _, _ => none
  | _, _, [] => none
  | n + 1, first, g :: gs =>
    if g.is ']' && !first then some ([], gs)
    else
      let add := fun (m : Member) rest => (members n false rest).map fun (ms, r) => (m :: ms, r)
      match if g.is '[' then kind? gs else none with
      | some (p, rest) => add (.kind p) rest
      | none =>
        match gs with
        | h :: k :: rest =>
          if h.is '-' && !k.is ']' then add (.range g.char k.char) rest
          else add (.range g.char g.char) gs
        | gs => add (.range g.char g.char) gs

inductive Matcher where
  | char (c : Char)
  | one
  | many
  | set (negated : Bool) (members : List Member)

/-- The matchers of a pattern. A bracket that is never closed stands for itself. -/
def matchersFrom : Nat → List Glyph → List Matcher
  | 0, _ => []
  | _, [] => []
  | n + 1, g :: gs =>
    if g.is '*' then .many :: matchersFrom n gs
    else if g.is '?' then .one :: matchersFrom n gs
    else if g.is '[' then
      let negated := gs.head?.any (·.is '!')
      match members (gs.length + 1) true (if negated then gs.tail else gs) with
      | some (ms, rest) => .set negated ms :: matchersFrom n rest
      | none => .char '[' :: matchersFrom n gs
    else .char g.char :: matchersFrom n gs

def matchers (gs : List Glyph) : List Matcher :=
  matchersFrom (gs.length + 1) (Glyphs.unescape gs)

def suffixes : Octets → List Octets
  | [] => [[]]
  | c :: t => (c :: t) :: suffixes t

def fits : List Matcher → Octets → Bool
  | [], t => t.isEmpty
  | .many :: ms, t => (suffixes t).any (fits ms)
  | _ :: _, [] => false
  | .char c :: ms, d :: t => c == d && fits ms t
  | .one :: ms, _ :: t => fits ms t
  | .set negated members :: ms, d :: t => members.any (·.contains d) != negated && fits ms t

def patternFits (p : List Glyph) (t : Octets) : Bool := fits (matchers p) t

/-- What is between two arguments, and separates them wherever separators do. -/
def gap : Char := '\x00'

def beforeGap (t : Octets) : Octets := t.takeWhile (· != gap)

/-- The value without the part at its start, or else at its end, that a pattern matches. No part is
looked at beyond a gap, but at the end all that comes after it is dropped too. -/
def trimmed (start longest : Bool) (p : List Glyph) (t : Octets) : Octets :=
  let ms := matchers p
  let cuts :=
    if start = longest then (List.range (t.length + 1)).reverse
    else List.range ((beforeGap t).length + 1)
  match cuts.find? fun n => fits ms (beforeGap (if start then t.take n else t.drop n)) with
  | some n => if start then t.drop n else t.take n
  | none => t

/-! ## File names -/

def entryAt? (d : Disk) (user : Place) (path : Octets) : Option Entry :=
  let name := (path.reverse.takeWhile (· != '/')).reverse
  let dir := path.take (path.length - name.length)
  if name = [] ∨ name = ['.'] ∨ name = ['.', '.'] then
    match d.find user (Octets.toText path) with
    | .ok (_, e) => some e
    | .error _ => none
  else
    match d.find user (Octets.toText (dir ++ ['.'])) with
    | .ok (l, e) =>
      if user.permits e .search then d.lookup (Octets.toText name :: l) else none
    | .error _ => none

def namesIn (d : Disk) (user : Place) (dir : Octets) : List Octets :=
  match d.find user (Octets.toText (if dir.isEmpty then ['.'] else dir)) with
  | .error _ => []
  | .ok (l, e) =>
    if e.isDirectory && user.permits e .read then
      let own := d.entries.filterMap fun (k, _) =>
        match k with
        | name :: parent => if parent = l then some (Octets.ofText name) else none
        | [] => none
      ['.'] :: ['.', '.'] :: own
    else []

/-- Whether there is a sign in a pattern that does not stand for itself. -/
def hasWildcard : List Glyph → Bool
  | [] => false
  | g :: gs =>
    g.is '*' || g.is '?' ||
      (g.is '[' && ((if gs.head?.any (·.is '!') then gs.tail else gs).drop 1).any (·.is ']')) ||
      hasWildcard gs

/-- Whether a pattern is of a name that it may stand for. A dot at the start is not matched. -/
def nameFits (p : List Glyph) (name : Octets) : Bool :=
  (name.head? != some '.' || p.head?.any (·.char == '.')) && patternFits p name

def patternParts : List Glyph → List (List Glyph)
  | [] => [[]]
  | g :: t =>
    if g.char = '/' then [] :: patternParts t
    else match patternParts t with
      | [] => [[g]]
      | p :: rest => (g :: p) :: rest

/-- The paths that start with `base` and go on as the parts of a pattern say. -/
def matchingPaths (d : Disk) (user : Place) : List (List Glyph) → Octets → List Octets
  | [], base => if (entryAt? d user base).isSome then [base] else []
  | p :: rest, base =>
    let slash := if rest.isEmpty then [] else ['/']
    if hasWildcard p then
      ((namesIn d user base).filter (nameFits p)).flatMap fun name =>
        if rest.isEmpty then [base ++ name] else matchingPaths d user rest (base ++ name ++ slash)
    else matchingPaths d user rest (base ++ Glyphs.text p ++ slash)

/-- The file names that a field stands for, or the field itself if there are none. -/
def pathnames (d : Disk) (user : Place) (field : List Glyph) : List Octets :=
  let parts := patternParts (Glyphs.unescape field)
  if parts.any hasWildcard then
    match matchingPaths d user parts [] with
    | [] => [Glyphs.text field]
    | paths => paths.mergeSort Octets.inOrder
  else [Glyphs.text field]

end CommandShell.Script
