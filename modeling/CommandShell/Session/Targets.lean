import CommandShell.Session.Basic
/-! Opening the targets of a line's redirections. -/
namespace CommandShell

structure Outlets where
  output : Outlet := .own
  errors : Outlet := .own
  deriving DecidableEq

namespace Outlets

def close (o : Outlets) (w : World) : World := (w.closeOutlet o.output).closeOutlet o.errors

end Outlets

namespace World

/-- Opens targets in ascending order of their descriptors, those of output and errors only. After
a failure nothing stays open. -/
def openTargets (command currentDir : Text) :
    Redirects → Outlets → World → World × Except Failure Outlets
  | [], o, w => (w, .ok o)
  | (fd, target) :: rest, o, w =>
    if fd = standardOutput ∨ fd = standardError then
      match w.openFile .truncate (Path.join currentDir target) with
      | (w, .error cause) => (o.close w, .error (.redirection command target cause))
      | (w, .ok h) =>
        openTargets command currentDir rest
          (if fd = standardOutput then { o with output := .handle h }
            else { o with errors := .handle h }) w
    else openTargets command currentDir rest o (w.note (.ignored fd target))

end World
end CommandShell
