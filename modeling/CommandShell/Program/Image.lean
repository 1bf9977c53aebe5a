import CommandShell.Disk.OpenFile
/-! What runs when a file is executed: the installed interpreter itself, or the interpreter that the
first line of a script names. -/
namespace CommandShell

/-- How much of a file is looked at for the line that names an interpreter. -/
def headLength : Nat := 256

/-- How many files may name each other as interpreters. -/
def interpreterDepth : Nat := 6

/-- The length that one argument or variable may not reach. -/
def argumentLimit : Nat := 131072

def isBlankByte (b : UInt8) : Bool := b == 0x20 || b == 0x09

structure Header where
  interpreter : Bytes
  argument : Option Bytes
  deriving DecidableEq

def head (content : Bytes) : Bytes :=
  (content ++ List.replicate headLength 0).take headLength

/-- The line after the mark, without blanks at its end. A line that goes on after the head loses its
last byte, and is none at all if the name in it may go on too. -/
def headerLine? (line : Bytes) : Option Bytes :=
  let text :=
    if line.contains 0x0A then some (line.takeWhile (· != 0x0A))
    else if (line.dropWhile isBlankByte).any (fun b => isBlankByte b || b == 0) then
      some line.dropLast
    else none
  text.map fun t => (t.reverse.dropWhile isBlankByte).reverse

/-- None for a file that is no script. A zero ends the name or the argument. -/
def Header.ofContent? (content : Bytes) : Option Header :=
  match head content with
  | 0x23 :: 0x21 :: line =>
    match (headerLine? line).map (·.dropWhile isBlankByte) with
    | none | some [] => none
    | some text =>
      let rest := text.dropWhile fun b => !isBlankByte b && b != 0
      some
        { interpreter := text.takeWhile fun b => !isBlankByte b && b != 0
          argument :=
            if rest.head?.any isBlankByte then
              some ((rest.dropWhile isBlankByte).takeWhile (· != 0))
            else none }
  | _ => none

/-- The arguments of a script's interpreter: its own, then the script instead of the name under
which it was called. -/
def Header.arguments (h : Header) (script : Bytes) (arguments : List Bytes) : List Bytes :=
  h.interpreter :: h.argument.toList ++ script :: arguments.tail

namespace Disk

/-- The arguments with which the installed interpreter runs when `path` is executed. A file that is
open for writing is not executed, and an interpreter without a name is a directory, which is not
either. -/
def execute (d : Disk) (user : Place) (writing : List Nat) :
    Nat → Bytes → List Bytes → Except Fault (List Bytes)
  | depth, path, arguments =>
    match d.find user (Utf8.decode path) with
    | .error f => .error f
    | .ok (_, e) =>
      if !e.isExecutable || !user.permits e .search then .error (.system .accessDenied)
      else if writing.contains e.serial then .error (.system .fileBusy)
      else match depth with
        | 0 => .error (.system .linkLoop)
        | depth + 1 =>
          if e.node = .interpreter then .ok arguments
          else match Header.ofContent? (d.content e.serial) with
            | none => .error (.system .notExecutable)
            | some h =>
              if h.interpreter.isEmpty then .error (.system .accessDenied)
              else execute d user writing depth h.interpreter (h.arguments path arguments)

end Disk
end CommandShell
