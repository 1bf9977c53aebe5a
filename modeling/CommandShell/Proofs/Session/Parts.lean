import CommandShell.Proofs.Session.Turn
import CommandShell.Proofs.World.Quiet
/-! The parts of executing a command: running it, speaking of its failure, and winding it up. -/
namespace CommandShell

namespace World

theorem receive_noted (w : World) (signal : Nat) :
    (w.receive signal).noted = w.noted ∧ (w.receive signal).log = w.log := by
  unfold receive
  split
  · exact ⟨rfl, rfl⟩
  · split <;> exact ⟨rfl, rfl⟩

/-- A program has no part in what the shell notes. -/
theorem resume_noted (w : World) (f : Finished) :
    (w.resume f).noted = w.noted ∧ (w.resume f).log = w.log := by
  refine resume_stages (fun w' => w'.noted = w.noted ∧ w'.log = w.log) f (fun signal w' h => ?_)
    ⟨rfl, rfl⟩
  obtain ⟨hn, hl⟩ := receive_noted w' signal
  exact ⟨hn.trans h.1, hl.trans h.2⟩

theorem launch_noted (run : Runner) (l : Launch) (o : Outlets) (w : World) :
    (w.launch run l o).1.noted = w.noted ∧ (w.launch run l o).1.log = w.log := by
  have hclose : (o.close w).noted = w.noted ∧ (o.close w).log = w.log := by
    obtain ⟨out, err⟩ := o
    cases out <;> cases err <;> exact ⟨rfl, rfl⟩
  rcases Shell.launch_cases run l o w with he | ⟨process, he⟩
  · rw [he]
    exact hclose
  · rw [he]
    obtain ⟨hn, hl⟩ := resume_noted (o.close w) (run process (o.close w).surroundings)
    exact ⟨hn.trans hclose.1, hl.trans hclose.2⟩

end World

namespace Shell

variable {sh : Shell}

/-- What is left to do after a built-in: its output goes out, and its files are closed. -/
def windUp (c : Command) (o : Outlets) (sh : Shell) : Shell :=
  (match (sh.world.flushOutlet o.output).2 with
    | none => { sh with world := (sh.world.flushOutlet o.output).1 }
    | some cause => note (.notFlushed c.name cause)
        { sh with world := (sh.world.flushOutlet o.output).1 }).mapWorld o.close

theorem executeBuiltin_eq (b : Builtin) (c : Command) (o : Outlets) (sh : Shell) :
    sh.executeBuiltin b c o =
      match sh.runBuiltin b c.arguments o.output with
      | (sh, .ok code) => (sh.windUp c o, code)
      | (sh, .error f) => ((sh.report o.errors f).windUp c o, failureStatus) := by
  unfold executeBuiltin
  generalize sh.runBuiltin b c.arguments o.output = r
  obtain ⟨sh', f | code⟩ := r
  · rfl
  · rfl

/-- Before a launch, output that was held back goes out, and the launch is noted. -/
def prepared (path : Text) (c : Command) (sh : Shell) : Shell :=
  (match sh.world.flush.2 with
    | none => { sh with world := sh.world.flush.1 }
    | some cause => note (.notFlushedBeforeLaunch cause) { sh with world := sh.world.flush.1 }).note
    (.launching path c.name c.arguments)

/-- The request to start a program for a command. -/
def launchOf (path : Text) (c : Command) (o : Outlets) (sh : Shell) : Launch where
  program := path
  name := c.name
  arguments := c.arguments
  vars := sh.session.vars
  directory := sh.session.currentDir
  output := sh.world.outletFile o.output
  errors := sh.world.outletFile o.errors

/-- What came of starting a program and waiting for it. -/
def launched (run : Runner) (path : Text) (c : Command) (o : Outlets) (sh : Shell) :
    World × Except Fault WaitStatus :=
  (sh.prepared path c).world.launch run ((sh.prepared path c).launchOf path c o) o

theorem executeProgram_eq (run : Runner) (path : Text) (c : Command) (o : Outlets) (sh : Shell) :
    sh.executeProgram run path c o =
      match sh.launched run path c o with
      | (world, .error cause) =>
        ({ sh with world }.report .own (.launch c.name cause), failureStatus)
      | (world, .ok status) =>
        (if world.killedBy.isSome then { sh with world }
          else { sh with world }.note (.finished c.name status), status.code) := by
  unfold executeProgram launched prepared
  generalize sh.world.flush = r
  obtain ⟨w, _ | cause⟩ := r
  · rfl
  · rfl

/-- Changing directories takes a note or moves the process, and no more. -/
theorem cd_stages (P : World → Prop) (hn : ∀ path cause w, P w → P (w.note (.notEntered path cause)))
    (hm : ∀ place w, P w → P { w with cwd := place }) (args : List Text) (h : P sh.world) :
    P (sh.cd args).1.world := by
  unfold cd
  split
  · exact h
  · split
    · exact h
    · unfold enter
      split
      · split
        · exact hn _ _ _ h
        · exact hm _ _ h
      · exact h

/-- A built-in prints, or it changes directories, or it does nothing to the process. -/
theorem runBuiltin_stages (P : World → Prop) {out : Outlet}
    (hp : ∀ ts w, P w → P (World.print out ts w).1)
    (hn : ∀ path cause w, P w → P (w.note (.notEntered path cause)))
    (hm : ∀ place w, P w → P { w with cwd := place }) (b : Builtin) (args : List Text)
    (h : P sh.world) : P (sh.runBuiltin b args out).1.world := by
  cases b with
  | exit => exact h
  | echo => exact hp [Text.join " " args, "\n"] sh.world h
  | pwd => exact hp [sh.session.currentDir, "\n"] sh.world h
  | type =>
    rw [runBuiltin, typeNames]
    split
    · exact h
    · exact typeEach_stages (P ·.world) (fun texts sh' h => hp texts sh'.world h) args 0 h
  | cd => exact cd_stages P hn hm args h

/-- Nothing is said while targets are opened. -/
theorem hushed_targets (l : CommandLine) (sh : Shell) : sh.world.Hushed (sh.targets l).1 :=
  .trans (.note sh.world rfl rfl) (World.hushed_openTargets _ _ _ _ _)

/-- A built-in tells the user nothing but what it prints. -/
theorem hushed_runBuiltin (b : Builtin) (args : List Text) (out : Outlet) (sh : Shell) :
    sh.world.Hushed (sh.runBuiltin b args out).1.world :=
  runBuiltin_stages sh.world.Hushed (fun ts w h => h.trans (World.hushed_print w out ts))
    (fun _ _ w h => h.trans (.note w rfl rfl)) (fun _ _ h => h.trans (.aside rfl rfl rfl))
    b args (.refl _)

theorem hushed_windUp (c : Command) (o : Outlets) (sh : Shell) :
    sh.world.Hushed (sh.windUp c o).world := by
  have hflush := World.hushed_flushOutlet sh.world o.output
  have hnoted : sh.world.Hushed (match (sh.world.flushOutlet o.output).2 with
      | none => { sh with world := (sh.world.flushOutlet o.output).1 }
      | some cause => note (.notFlushed c.name cause)
          { sh with world := (sh.world.flushOutlet o.output).1 }).world := by
    split
    · exact hflush
    · exact hflush.trans (.note _ rfl rfl)
  exact hnoted.trans (World.hushed_close _ o)

/-- A built-in starts no program. -/
theorem launches_executeBuiltin (b : Builtin) (c : Command) (o : Outlets) (sh : Shell) :
    (sh.executeBuiltin b c o).1.world.launches = sh.world.launches := by
  have hrun := hushed_runBuiltin b c.arguments o.output sh
  rw [executeBuiltin_eq]
  generalize sh.runBuiltin b c.arguments o.output = r at hrun
  obtain ⟨sh', f | code⟩ := r
  · refine (hushed_windUp c o _).quiet.launches.trans ?_
    exact (World.launches_report sh'.world o.errors f.message).trans hrun.quiet.launches
  · exact (hrun.trans (hushed_windUp c o sh')).quiet.launches

/-- Before a launch there is no word to the user, and exactly one request. -/
theorem prepared_spec (path : Text) (c : Command) (sh : Shell) :
    (sh.prepared path c).session = sh.session ∧
      ∃ w, sh.world.Hushed w ∧
        (sh.prepared path c).world = w.note (.launching path c.name c.arguments) := by
  have hflush := World.hushed_flush sh.world
  unfold prepared
  cases sh.world.flush.2 with
  | none => exact ⟨rfl, _, hflush, rfl⟩
  | some cause => exact ⟨rfl, _, hflush.trans (.note _ rfl rfl), rfl⟩

/-- A program is started by one request. -/
theorem launches_executeProgram (run : Runner) (path : Text) (c : Command) (o : Outlets)
    (sh : Shell) :
    (sh.executeProgram run path c o).1.world.launches =
      ⟨path, c.name, c.arguments⟩ :: sh.world.launches := by
  obtain ⟨-, w, hhushed, hw⟩ := prepared_spec path c sh
  have hnoted := (World.launch_noted run ((sh.prepared path c).launchOf path c o) o
    (sh.prepared path c).world).1
  have hlaunched : (sh.launched run path c o).1.launches =
      ⟨path, c.name, c.arguments⟩ :: sh.world.launches := by
    rw [World.launches, launched, hnoted, hw, ← World.launches, World.launches_note,
      hhushed.quiet.launches]
    rfl
  rw [executeProgram_eq]
  generalize sh.launched run path c o = r at hlaunched
  obtain ⟨w', cause | status⟩ := r
  · exact (World.launches_report w' .own _).trans hlaunched
  · dsimp only
    split
    · exact hlaunched
    · exact (World.quiet_note w' rfl rfl).launches.trans hlaunched

end Shell
end CommandShell
