import CommandShell.Proofs.World.Steady
import CommandShell.Session.Execute
/-! What a line can do. Between stretches of the shell's own work it acts once at most. -/
namespace CommandShell

/-- The process goes on after a program that it waited for. -/
def World.resume (w : World) (f : Finished) : World :=
  f.signals.foldl World.receive { w with surroundings := f.surroundings, input := f.input }

theorem World.receive_spec (w : World) (signal : Nat) :
    (w.receive signal).surroundings = w.surroundings ∧ (w.receive signal).pending = w.pending ∧
      (w.receive signal).cwd = w.cwd ∧ (w.receive signal).descriptors = w.descriptors := by
  unfold receive
  split
  · exact ⟨rfl, rfl, rfl, rfl⟩
  · split <;> exact ⟨rfl, rfl, rfl, rfl⟩

/-- What holds with the input and the surroundings that a program leaves behind, and survives a
signal, holds when the process goes on. -/
theorem World.resume_stages (P : World → Prop) {w : World} (f : Finished)
    (hr : ∀ signal w, P w → P (w.receive signal))
    (h : P { w with surroundings := f.surroundings, input := f.input }) : P (w.resume f) := by
  have received : ∀ (signals : List Nat) (w : World), P w → P (signals.foldl receive w) := by
    intro signals
    induction signals with
    | nil => exact fun w h => h
    | cons signal signals ih => exact fun w h => ih _ (hr signal w h)
  exact received f.signals _ h

/-- Signals are no output, move no process and close no file. -/
theorem World.resume_spec (w : World) (f : Finished) :
    (w.resume f).surroundings = f.surroundings ∧ (w.resume f).pending = w.pending ∧
      (w.resume f).cwd = w.cwd ∧ (w.resume f).descriptors = w.descriptors := by
  refine resume_stages (fun w' => w'.surroundings = f.surroundings ∧ w'.pending = w.pending ∧
    w'.cwd = w.cwd ∧ w'.descriptors = w.descriptors) f (fun signal w' h => ?_) ⟨rfl, rfl, rfl, rfl⟩
  obtain ⟨hs, hp, hc, hd⟩ := receive_spec w' signal
  exact ⟨hs.trans h.1, hp.trans h.2.1, hc.trans h.2.2.1, hd.trans h.2.2.2⟩

/-- Programs only add to a stream that takes everything, and leave it so. -/
def Runner.Appends (run : Runner) : Prop :=
  ∀ process s, s.Accepting →
    (run process s).surroundings.Accepting ∧ s.arrived <+: (run process s).surroundings.arrived

/-- Programs that read nothing, print nothing and end well. -/
def idleRunner : Runner := fun process s => ⟨s, process.input, .ok (.exited 0), []⟩

theorem idleRunner_appends : idleRunner.Appends := fun _ _ h => ⟨h, List.prefix_refl _⟩

namespace Shell

variable {run : Runner} {sh sh' sh'' : Shell}

/-- The session is as it was, and the process did work of its own only. -/
structure Follows (sh sh' : Shell) : Prop where
  session : sh'.session = sh.session
  world : sh.world.Steady sh'.world

theorem Follows.refl (sh : Shell) : sh.Follows sh := ⟨rfl, .refl _⟩

theorem Follows.trans (h : sh.Follows sh') (h' : sh'.Follows sh'') : sh.Follows sh'' :=
  ⟨h'.session.trans h.session, h.world.trans h'.world⟩

theorem follows_of_steady {w : World} (h : sh.world.Steady w) : sh.Follows { sh with world := w } :=
  ⟨rfl, h⟩

theorem follows_note (r : Record) (sh : Shell) : sh.Follows (sh.note r) :=
  ⟨rfl, (World.silent_note sh.world r).steady⟩

theorem follows_report (out : Outlet) (f : Failure) (sh : Shell) : sh.Follows (sh.report out f) :=
  ⟨rfl, (World.silent_report sh.world out f.message).steady⟩

theorem follows_close (o : Outlets) (sh : Shell) : sh.Follows (sh.mapWorld o.close) :=
  ⟨rfl, (World.silent_close sh.world o).steady⟩

/-- What a line does that is more than the shell's own work. `start` is how things were before the
line. -/
inductive Act (run : Runner) (start : Shell) : Shell → Shell → Prop
  | idle (sh : Shell) : Act run start sh sh
  | exit (sh : Shell) : Act run start sh { sh with session := { sh.session with exiting := true } }
  | enter {sh : Shell} {arg path : Text} {place : Place}
      (ht : target? sh.session arg = some path)
      (hd : sh.world.disk.isDirectory sh.world.cwd (Path.normalize path) = true)
      (he : sh.world.disk.enter sh.world.cwd (Path.normalize path) = .ok place) :
      Act run start sh
        { session := { sh.session with currentDir := Path.normalize path }
          world := { sh.world with cwd := place } }
  | launch {sh : Shell} (process : Process)
      (hp : start.world.Accepting → sh.world.pending = []) :
      Act run start sh { sh with world := sh.world.resume (run process sh.world.surroundings) }

/-- The whole of a line. -/
def Course (run : Runner) (sh sh' : Shell) : Prop :=
  ∃ before after, sh.Follows before ∧ Act run sh before after ∧ after.Follows sh'

theorem Follows.course (h : sh.Follows sh') : Course run sh sh' :=
  ⟨sh, sh, .refl sh, .idle sh, h⟩

theorem Course.of_follows (h : sh.Follows sh') (hc : Course run sh' sh'') : Course run sh sh'' := by
  obtain ⟨before, after, hb, ha, hf⟩ := hc
  refine ⟨before, after, h.trans hb, ?_, hf⟩
  cases ha with
  | idle => exact .idle _
  | exit => exact .exit _
  | enter ht hd he => exact .enter ht hd he
  | launch process hp => exact .launch process fun hs => hp (h.world.output hs).1

theorem Course.follows (hc : Course run sh sh') (h : sh'.Follows sh'') : Course run sh sh'' := by
  obtain ⟨before, after, hb, ha, hf⟩ := hc
  exact ⟨before, after, hb, ha, hf.trans h⟩

theorem follows_say (b : Builtin) (out : Outlet) (texts : List Text) (sh : Shell) :
    sh.Follows (sh.say b out texts).1 :=
  ⟨rfl, World.steady_print sh.world out texts⟩

theorem follows_typeEach (out : Outlet) (names : List Text) (code : Int) (sh : Shell) :
    sh.Follows (typeEach out names code sh).1 :=
  typeEach_stages sh.Follows (fun texts sh' h => h.trans (follows_say .type out texts sh')) names
    code (.refl sh)

theorem course_enter {arg path : Text} (ht : target? sh.session arg = some path) :
    Course run sh (sh.enter arg (Path.normalize path)).1 := by
  unfold enter
  split
  · rename_i hd
    split
    · exact (follows_note _ sh).course
    · rename_i place he
      exact ⟨sh, _, .refl sh, .enter ht hd he, .refl _⟩
  · exact (Follows.refl sh).course

theorem course_cd (run : Runner) (args : List Text) (sh : Shell) :
    Course run sh (sh.cd args).1 := by
  unfold cd
  split
  · exact (Follows.refl sh).course
  · split
    · exact (Follows.refl sh).course
    · exact course_enter ‹_›

theorem follows_typeNames (names : List Text) (out : Outlet) (sh : Shell) :
    sh.Follows (sh.typeNames names out).1 := by
  unfold typeNames
  split
  · exact .refl sh
  · exact follows_typeEach out names 0 sh

theorem course_runBuiltin (run : Runner) (b : Builtin) (args : List Text) (out : Outlet)
    (sh : Shell) :
    Course run sh (sh.runBuiltin b args out).1 := by
  cases b with
  | exit => exact ⟨sh, _, .refl sh, .exit sh, .refl _⟩
  | echo => exact (follows_say _ _ _ sh).course
  | type => exact (follows_typeNames args out sh).course
  | pwd => exact (follows_say _ _ _ sh).course
  | cd => exact course_cd run args sh

/-- Once a built-in has ended, well or not, what is left to do is work of the shell's own. -/
theorem follows_executeBuiltin (b : Builtin) (c : Command) (o : Outlets) (sh : Shell) :
    (sh.runBuiltin b c.arguments o.output).1.Follows (sh.executeBuiltin b c o).1 := by
  generalize hrun : sh.runBuiltin b c.arguments o.output = r
  refine executeBuiltin_stages r.1.Follows r.1.Follows b c o
    (fun f sh' h => h.trans (follows_report o.errors f sh'))
    (fun sh' h => h.trans (follows_of_steady (World.steady_flushOutlet sh'.world o.output)))
    (fun r sh' h => h.trans (follows_note r sh')) (fun sh' h => h.trans (follows_close o sh')) ?_
  rw [hrun]
  exact .refl r.1

theorem course_executeBuiltin (run : Runner) (b : Builtin) (c : Command) (o : Outlets)
    (sh : Shell) :
    Course run sh (sh.executeBuiltin b c o).1 :=
  (course_runBuiltin run b c.arguments o.output sh).follows (follows_executeBuiltin b c o sh)

theorem launch_cases (run : Runner) (l : Launch) (o : Outlets) (w : World) :
    (w.launch run l o).1 = o.close w ∨
      ∃ process, (w.launch run l o).1 =
        (o.close w).resume (run process (o.close w).surroundings) := by
  unfold World.launch
  split
  · exact Or.inl rfl
  · exact Or.inr ⟨_, rfl⟩

theorem course_launch {start : Shell} (run : Runner) (l : Launch) (o : Outlets)
    (h : start.Follows sh)
    (hp : start.world.Accepting → sh.world.pending = []) :
    Course run start { sh with world := (sh.world.launch run l o).1 } := by
  have hc : start.Follows { sh with world := o.close sh.world } :=
    h.trans (follows_close o sh)
  rcases launch_cases run l o sh.world with he | ⟨process, he⟩
  · rw [he]
    exact hc.course
  · rw [he]
    have hp' : start.world.Accepting → (o.close sh.world).pending = [] := by
      intro ha
      rw [(World.silent_close sh.world o).pending, hp ha]
    exact ⟨{ sh with world := o.close sh.world }, _, hc, .launch process hp', .refl _⟩

theorem course_executeProgram (run : Runner) (path : Text) (c : Command) (o : Outlets)
    (sh : Shell) :
    Course run sh (sh.executeProgram run path c o).1 := by
  have hp : sh.world.Accepting → sh.world.flush.1.pending = [] := by
    intro ha
    obtain ⟨w, he, -, -, hn⟩ := World.flush_prints ha
    rw [he, hn]
  refine executeProgram_stages
    (fun sh' => sh.Follows sh' ∧ (sh.world.Accepting → sh'.world.pending = [])) (Course run sh)
    run path c o (fun r sh' h => ⟨h.1.trans (follows_note r sh'), fun ha => ?_⟩)
    (fun l sh' h => course_launch run l o h.1 h.2)
    (fun f sh' h => h.follows (follows_report .own f sh'))
    (fun r sh' h => h.follows (follows_note r sh')) ?_
  · exact (World.silent_note sh'.world r).pending.trans (h.2 ha)
  · exact ⟨follows_of_steady (World.steady_flush sh.world), hp⟩

theorem course_executeCommand (run : Runner) (c : Command) (o : Outlets) (sh : Shell) :
    Course run sh (sh.executeCommand run c o).1 := by
  unfold executeCommand
  split
  · exact course_executeBuiltin run _ c o sh
  · exact course_executeProgram run _ c o sh
  · exact ((follows_report _ _ sh).trans (follows_close o _)).course

theorem course_opened (run : Runner) {r : World × Except Failure Outlets} (command : Option Command)
    (h : sh.Follows { sh with world := r.1 }) :
    Course run sh (match r with
      | (world, .error f) => ({ sh with world }.report .own f, failureStatus)
      | (world, .ok o) =>
        match command with
        | none => ({ sh with world }.mapWorld o.close, 0)
        | some c => { sh with world }.executeCommand run c o).1 := by
  obtain ⟨w, f | o⟩ := r
  · exact (h.trans (follows_report _ _ _)).course
  · cases command with
    | none => exact (h.trans (follows_close o _)).course
    | some c => exact (course_executeCommand run c o _).of_follows h

theorem course_executeLine (run : Runner) (l : CommandLine) (sh : Shell) :
    Course run sh (sh.executeLine run l).1 :=
  course_opened run l.command (follows_of_steady (World.silent_openTargets _ _ _ _ _).steady)

/-- Whatever a line says, it acts once at most. -/
theorem course_execute (run : Runner) (line : Text) (sh : Shell) :
    Course run sh (sh.execute run line).1 := by
  unfold execute
  split
  · exact (Follows.refl sh).course
  · rename_i l _
    exact (course_executeLine run l _).of_follows (follows_note _ sh)

theorem Act.output {start : Shell} (hr : run.Appends) (h : Act run start sh sh')
    (hs : start.world.Accepting) (ha : sh.world.Accepting) :
    sh'.world.Accepting ∧ sh.world.printed <+: sh'.world.printed := by
  cases h with
  | idle => exact ⟨ha, List.prefix_refl _⟩
  | exit => exact ⟨ha, List.prefix_refl _⟩
  | enter ht hd he => exact ⟨ha, List.prefix_refl _⟩
  | launch process hp =>
    obtain ⟨ho, hpending, -⟩ := sh.world.resume_spec (run process sh.world.surroundings)
    obtain ⟨ha', hpre⟩ := hr process sh.world.surroundings ha
    refine ⟨?_, ?_⟩
    · rw [World.Accepting, ho]
      exact ha'
    · rw [World.printed, World.printed, ho, hpending, hp hs, List.append_nil, List.append_nil]
      exact hpre

/-- A line takes nothing back that was printed before it. -/
theorem Course.output (hr : run.Appends) (h : Course run sh sh') (ha : sh.world.Accepting) :
    sh'.world.Accepting ∧ sh.world.printed <+: sh'.world.printed := by
  obtain ⟨before, after, hb, hact, hf⟩ := h
  obtain ⟨ha₁, hp₁⟩ := hb.world.output ha
  obtain ⟨ha₂, hp₂⟩ := hact.output hr ha ha₁
  obtain ⟨ha₃, hp₃⟩ := hf.world.output ha₂
  exact ⟨ha₃, hp₁.trans (hp₂.trans hp₃)⟩

/-- Lines executed one after another. -/
def executeLines (run : Runner) (lines : List Text) (sh : Shell) : Shell :=
  lines.foldl (fun sh line => (sh.execute run line).1) sh

theorem executeLines_nil (run : Runner) (sh : Shell) : executeLines run [] sh = sh := rfl

theorem executeLines_cons (run : Runner) (line : Text) (lines : List Text) (sh : Shell) :
    executeLines run (line :: lines) sh = executeLines run lines (sh.execute run line).1 := rfl

/-- What holds between the shells before and after each line, and goes on over two stretches, holds
over all lines. -/
theorem executeLines_induction (R : Shell → Shell → Prop) (refl : ∀ sh, R sh sh)
    (trans : ∀ {sh sh' sh''}, R sh sh' → R sh' sh'' → R sh sh'')
    (step : ∀ line sh, R sh (sh.execute run line).1) (lines : List Text) (sh : Shell) :
    R sh (executeLines run lines sh) := by
  induction lines generalizing sh with
  | nil => exact refl sh
  | cons line lines ih => exact trans (step line sh) (ih _)

end Shell
end CommandShell
