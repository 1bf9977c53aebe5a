import CommandShell.Session.Basic
/-! Finding the program that a name stands for. A search path and a directory are raw bytes to the
system, whether or not they are text. -/
namespace CommandShell

section
variable {α : Type} [DecidableEq α] (slash colon : α)

/-- The directories of a search path, in order. Empty ones count for nothing. -/
def searchDirectories (search : List α) : List (List α) :=
  (search.splitOn colon).filter (!·.isEmpty)

/-- The paths at which a name may stand for a program, in order. A name with a slash is a path
itself, and no name stands for nothing. -/
def candidatesBy (search name currentDir : List α) : List (List α) :=
  if name = [] then []
  else if slash ∈ name then [Path.joinBy slash currentDir name]
  else (searchDirectories colon search).map fun dir =>
    Path.joinBy slash (Path.joinBy slash currentDir dir) name

end

/-- The first candidate that can be executed, by what the system tells about each path. -/
def findCommand? (status : Bytes → Option Entry) (search name currentDir : Bytes) : Option Bytes :=
  (candidatesBy 0x2F 0x3A search name currentDir).find? fun path =>
    (status path).any (·.isExecutable)

def findProgram? (d : Disk) (cwd : Place) (search name currentDir : Text) : Option Text :=
  (findCommand? (d.status cwd) (Utf8.encode search) (Utf8.encode name)
    (Utf8.encode currentDir)).map Utf8.decode

def Shell.resolve? (sh : Shell) (name : Text) : Option Text :=
  findProgram? sh.world.disk sh.world.cwd (sh.session.searchPath?.getD []) name sh.session.currentDir

end CommandShell
