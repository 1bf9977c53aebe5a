import CommandShell.Script.Lookup
/-! The working directory, under the name by which it was entered, and the permissions that new files
lack. -/
namespace CommandShell.Script

def pathNames (t : Octets) : List Octets := (t.splitOn '/').filter (!·.isEmpty)

/-- What a path starts with: two slashes stay as they are, but not three. -/
def pathRoot (t : Octets) : Octets :=
  match t with
  | '/' :: '/' :: '/' :: _ => ['/']
  | '/' :: '/' :: _ => ['/', '/']
  | _ => ['/']

/-- The names of a path, latest first, after one more step. -/
def stepName (names : List Octets) (name : Octets) : List Octets :=
  if name = ['.'] then names
  else if name = ['.', '.'] then names.tail
  else name :: names

/-- The path of a directory as it is named, seen from another one. Whatever is there, the parent of
a name is what was before it. -/
def logicalPath (base t : Octets) : Octets :=
  let (root, names) :=
    if t.head? = some '/' then (pathRoot t, []) else (pathRoot base, (pathNames base).reverse)
  root ++ Text.join ['/'] (((pathNames t).foldl stepName names).reverse)

/-- The path of a place, unless its directory is gone. -/
def physicalPath? (d : Disk) (p : Place) : Option Octets :=
  if d.holds p then some (Octets.ofText ('/' :: Text.join ['/'] p.location.reverse)) else none

namespace Effect

def workingPath : Effect Octets := do
  match physicalPath? (← disk) (← context).place with
  | some t => pure t
  | none =>
    complain ("getcwd() failed: ".toList ++ Octets.ofText (Fault.system .noEntry).reason)
    pure []

/-- The working directory gets a name, which a variable shows. Without one it gets the name that it
has on the disk. -/
def nameDirectory (name : Option Octets) : Effect Unit := do
  let (directory, physical) ← match name with
    | some t => pure (t, none)
    | none => do
      let t ← workingPath
      pure (t, some t)
  amend ({ · with directory, physical })
  putVariable { name := "PWD".toList, value := some directory, exported := true }

/-- Whether symbolic links are to be resolved: the last switch tells. -/
def wantsPhysical (s : Switches) : Bool := (s.given.getLast?.map (·.1)) == some 'P'

def placeSwitches (args : List Octets) : Effect Switches :=
  switches [('L', false), ('P', false)] args

def enterDirectory (physical : Bool) (target : Octets) : Effect Bool := do
  let c ← context
  let known := !physical && (target.head? = some '/' || !c.directory.isEmpty)
  let name := if known then some (logicalPath c.directory target) else none
  match (← disk).enter c.place (Octets.toText (name.getD target)) with
  | .error _ => pure false
  | .ok place =>
    amend ({ · with place })
    putVariable { name := "OLDPWD".toList, value := some c.directory, exported := true }
    nameDirectory name
    amend (·.staleTracks)
    pure true

/-- Whether a path starts in the working directory or above it, or at the root. -/
def isRooted (t : Octets) : Bool :=
  let first := t.takeWhile (· != '/')
  t.head? = some '/' || first = ['.'] || first = ['.', '.']

/-- The directories that a name may stand for below others, and whether they are told. -/
def directoryChoices (c : Context) (target : Octets) : List (Octets × Bool) :=
  match c.value? "CDPATH".toList with
  | none => []
  | some path => (pathsOf path target).map fun t => (t, t ≠ target)

def changeDirectory (args : List Octets) : Effect Nat := do
  let s ← placeSwitches args
  let c ← context
  let d ← disk
  let (named, told) := match s.rest with
    | [] => (c.valueOf "HOME", false)
    | ['-'] :: _ => (c.valueOf "OLDPWD", true)
    | t :: _ => (t, false)
  let target := if named.isEmpty then ['.'] else named
  let choices := if isRooted named then [] else directoryChoices c target
  let choice := choices.find? fun (t, _) => d.isDirectory c.place (Octets.toText t)
  let (path, elsewhere) := choice.getD (target, false)
  if !(← enterDirectory (wantsPhysical s) path) then
    fail ("can't cd to ".toList ++ target)
  if told || elsewhere then print ((← context).directory ++ ['\n'])
  pure 0

def printDirectory (args : List Octets) : Effect Nat := do
  let s ← placeSwitches args
  let c ← context
  if wantsPhysical s then
    match c.physical with
    | some t => print (t ++ ['\n'])
    | none =>
      let t ← workingPath
      amend ({ · with physical := some t })
      print (t ++ ['\n'])
  else print (c.directory ++ ['\n'])
  pure 0

end Effect

/-! ## Permissions -/

def allModes : Nat := 0o777

def withoutModes (m n : Nat) : Nat := m &&& (allModes ^^^ (n &&& allModes))

/-- The permissions of a letter for everyone. Some take over what there was before. -/
def permission? (before : Nat) (c : Char) : Option Nat :=
  match c with
  | 'r' => some 0o444
  | 'w' => some 0o222
  | 'x' => some 0o111
  | 'X' => some (if before &&& 0o111 = 0 then 0 else 0o111)
  | 's' => some 0
  | 'u' => some (before / 64 % 8 * 0o111)
  | 'g' => some (before / 8 % 8 * 0o111)
  | 'o' => some (before % 8 * 0o111)
  | _ => none

def classModes (c : Char) : Nat :=
  match c with
  | 'u' => 0o700
  | 'g' => 0o070
  | 'o' => 0o007
  | _ => allModes

def isClass (c : Char) : Bool := "augo".toList.contains c

/-- Changes of permissions, one after another: for whom, a sign and the permissions themselves. -/
def changedModes (before : Nat) : Nat → Bool → Nat → Nat → Octets → Option Nat
  | 0, _, _, mode, _ => some mode
  | _, _, _, mode, [] => some mode
  | n + 1, true, _, mode, t =>
    let classes := t.takeWhile isClass
    let rest := t.drop classes.length
    let who := if classes.isEmpty then allModes else classes.foldl (· ||| classModes ·) 0
    if rest.head?.any "+-=".toList.contains then changedModes before n false who mode rest
    else none
  | n + 1, false, who, mode, sign :: t =>
    let letters := t.takeWhile fun c => (permission? before c).isSome
    let value := (letters.foldl (fun m c => m ||| (permission? before c).getD 0) 0) &&& who
    let go := fun mode => changedModes before n false who mode (t.drop letters.length)
    match sign with
    | '+' => go (mode ||| value)
    | '-' => go (withoutModes mode value)
    | '=' => go (withoutModes mode who ||| value)
    | ',' => changedModes before n true who mode t
    | _ => none

def symbolicMask (mask : Nat) : Octets :=
  let mode := withoutModes allModes mask
  Text.join [','] (["u", "g", "o"].zip [64, 8, 1] |>.map fun (name, unit) =>
    let m := mode / unit
    name.toList ++ ['='] ++ ([('r', 2), ('w', 1), ('x', 0)].filterMap fun (c, bit) =>
      if m.testBit bit then some c else none))

def octalMask (mask : Nat) : Octets :=
  let digits := Nat.toDigits 8 mask
  List.replicate (4 - digits.length) '0' ++ digits

namespace Effect

def setMask (mask : Nat) : Effect Unit := amend fun c => { c with place := { c.place with mask } }

def maskCommand (args : List Octets) : Effect Nat := do
  let s ← switches [('S', false)] args
  let mask := (← context).place.mask
  match s.rest with
  | [] => print ((if s.has 'S' then symbolicMask mask else octalMask mask) ++ ['\n'])
  | t :: _ =>
    if t.head?.any isDecimal then
      if t.any fun c => !(Numeral.isDigit 8 c) then illegalNumber t
      setMask (Numeral.digitsValue 8 t &&& allModes)
    else
      let mode := withoutModes allModes mask
      match changedModes mode (2 * t.length + 1) true 0 mode t with
      | some mode => setMask (withoutModes allModes mode)
      | none => fail ("Illegal mode: ".toList ++ t)
  pure 0

end Effect
end CommandShell.Script
