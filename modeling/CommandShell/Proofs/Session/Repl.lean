import CommandShell.Disk.Placement
import CommandShell.Proofs.Program.Ending
import CommandShell.Proofs.Session.Limit
/-! A whole session: what it asks for, what it executes, what it prints and how it ends. -/
namespace CommandShell.Shell

def sampleWorld (input : Intake) : World :=
  .fresh .standard (Disk.standard.place [])
    [(Utf8.encode "PATH".toList, Utf8.encode "/bin".toList)] input

def sampleShell : Shell := Session.inherit "/" (sampleWorld (.bytes []))

def sampleReplies : List Reply :=
  [.line "echo a", .line "dash", .line "exit", .line "echo b"]

theorem sampleWorld_accepting (input : Intake) : (sampleWorld input).Accepting :=
  ⟨{}, rfl, rfl, rfl⟩

/-- A session whose process gets a line and no more. -/
def readingShell : Shell := Session.inherit "/" (sampleWorld (.bytes (Utf8.encode "echo a\n")))

end CommandShell.Shell
