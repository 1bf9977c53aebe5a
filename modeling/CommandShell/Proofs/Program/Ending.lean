import CommandShell.Program
import CommandShell.Proofs.Session.Transcript
/-! How the program ends after its loop, and what has arrived by then. -/
namespace CommandShell

variable {run : Runner}

theorem inherit_silent (currentDir : Text) (w : World) :
    w.Silent (Session.inherit currentDir w).world :=
  Session.inherit_stages w.Silent currentDir (fun r w' h => h.trans (World.silent_note w' r))
    (.refl w)

namespace Program

variable {o : Options} {stamp : Text} {w : World} {arguments : List Bytes} {args : List Text}

theorem startLog_silent (o : Options) (stamp : Text) (w : World) :
    w.Silent (startLog o stamp w) := by
  have opened : w.Silent (w.startLog o.logLevel o.logFile stamp).1 := by
    unfold World.startLog
    split
    · exact .refl w
    · split
      · exact ⟨⟨rfl, rfl, .refl _⟩, rfl, rfl⟩
      · split
        · exact .refl w
        · exact ⟨⟨rfl, rfl, Disk.extends_openFile ‹_›⟩, rfl, rfl⟩
  unfold startLog
  split
  · rename_i w' he
    rw [he] at opened
    exact opened
  · rename_i w' cause he
    rw [he] at opened
    exact opened.trans (World.silent_writeErrors _ _)

/-- The session of a program that is asked for no single line. -/
def session (o : Options) (stamp : Text) (w : World) : Shell :=
  Session.inherit (startLog o stamp w).path (startLog o stamp w)

theorem session_silent (o : Options) (stamp : Text) (w : World) :
    w.Silent (session o stamp w).world :=
  (startLog_silent o stamp w).trans (inherit_silent _ _)

theorem runLoop_silent (run : Runner) (text : Text) (sh : Shell) :
    (sh.repl run text (.standard [])).1.world.Silent (runLoop run text sh).1 := by
  unfold runLoop
  split
  · rename_i sh' he
    rw [he]
    exact .refl _
  · rename_i sh' cause he
    rw [he]
    exact World.silent_writeErrors _ _

theorem run_eq (hargs : readArguments arguments = .ok args)
    (hopts : Options.ofArguments args = .ok o) (hc : o.command = none) :
    Program.run run stamp arguments w =
      let r := runLoop run o.prompt (session o stamp w)
      match r.1.killedBy with
      | some signal => (r.1, .killed signal)
      | none => (r.1.release.1, .exited r.2) := by
  unfold Program.run
  simp only [hargs, hopts, runWith, hc]
  rfl

theorem exited_ne_killed (signal : Nat) : WaitStatus.killed signal ≠ .exited failure := by
  intro h
  have hw : signal % 128 = 256 := congrArg WaitStatus.word h
  omega

/-- The program fails if its loop does. -/
theorem run_failure_iff (hargs : readArguments arguments = .ok args)
    (hopts : Options.ofArguments args = .ok o) (hc : o.command = none) :
    (Program.run run stamp arguments w).2 = .exited failure ↔
      ∃ cause, ((session o stamp w).repl run o.prompt (.standard [])).2 = some cause := by
  obtain ⟨k, hk, hloop⟩ := Shell.loop_eq_ending run o.prompt
    ((Source.standard []).bound (session o stamp w).world) (session o stamp w, .standard [])
  have hkilled : ∀ cause,
      ((session o stamp w).repl run o.prompt (.standard [])).2 = some cause →
      ((session o stamp w).repl run o.prompt (.standard [])).1.world.killedBy = none := by
    intro cause hc
    rw [Shell.repl, hloop] at hc ⊢
    exact Shell.killedBy_of_ending_failed (fun i hi => ((hk i).1 hi).2) hc
  have hsame := (runLoop_silent run o.prompt (session o stamp w)).killedBy
  rw [run_eq hargs hopts hc]
  dsimp only
  rw [hsame]
  unfold runLoop
  generalize (session o stamp w).repl run o.prompt (.standard []) = r at hkilled
  obtain ⟨sh', _ | cause⟩ := r
  · dsimp only
    cases sh'.world.killedBy with
    | none => simp [WaitStatus.exited, success, failure]
    | some signal => simp [exited_ne_killed signal]
  · have hn : sh'.world.killedBy = none := hkilled cause rfl
    dsimp only
    rw [hn]
    simp

/-- What was printed in the end has arrived, unless a signal ended the program. -/
theorem run_arrived (hr : run.Appends) (ha : w.Accepting)
    (hargs : readArguments arguments = .ok args) (hopts : Options.ofArguments args = .ok o)
    (hc : o.command = none)
    (hk : ((session o stamp w).repl run o.prompt (.standard [])).1.world.killedBy = none) :
    (Program.run run stamp arguments w).1.surroundings.arrived =
      ((session o stamp w).repl run o.prompt (.standard [])).1.world.printed := by
  have hs := runLoop_silent run o.prompt (session o stamp w)
  have ha' : (runLoop run o.prompt (session o stamp w)).1.Accepting := by
    obtain ⟨k, -, hloop⟩ := Shell.loop_eq_ending run o.prompt
      ((Source.standard []).bound (session o stamp w).world) (session o stamp w, .standard [])
    have hacc := (session_silent o stamp w).accepting ha
    have hend := Shell.ending_accepting o.prompt (s := (session o stamp w, .standard [])) hr k
      hacc
    rw [← hloop] at hend
    exact hs.accepting hend
  obtain ⟨w', he, -, hp, hn⟩ := World.release_prints ha'
  rw [run_eq hargs hopts hc]
  dsimp only
  rw [hs.killedBy, hk]
  dsimp only
  rw [← hs.printed, ← hp, he, World.printed, hn, List.append_nil]

end Program
end CommandShell
