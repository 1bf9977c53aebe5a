import CommandShell.Proofs.Session.Act
import CommandShell.Proofs.Session.Targets
/-! What becomes of a session in a line: it goes on as it was, it is asked to end, or it moves. -/
namespace CommandShell

theorem Builtin.name_of_ofName? {n : Text} {b : Builtin} (h : ofName? n = some b) : n = b.name := by
  have hname := List.find?_some h
  exact (beq_iff_eq.1 hname).symm

namespace Shell

variable {run : Runner} {sh sh' sh'' : Shell} {line : Text} {l : CommandLine} {c : Command}

/-- The session is the same and stands where it stood. -/
structure Still (sh sh' : Shell) : Prop where
  session : sh'.session = sh.session
  cwd : sh'.world.cwd = sh.world.cwd

theorem Still.refl (sh : Shell) : sh.Still sh := ⟨rfl, rfl⟩

theorem Still.trans (h : sh.Still sh') (h' : sh'.Still sh'') : sh.Still sh'' :=
  ⟨h'.session.trans h.session, h'.cwd.trans h.cwd⟩

theorem Follows.still (h : sh.Follows sh') : sh.Still sh' := ⟨h.session, h.world.cwd⟩

/-- The path is that of a directory, and a process can get from its place into it. -/
structure Enterable (d : Disk) (cwd : Place) (path : Text) (place : Place) : Prop where
  isDirectory : d.isDirectory cwd path = true
  entered : d.enter cwd path = .ok place

/-- The session and its process, moved to a directory. -/
def movedTo (path : Text) (place : Place) (sh : Shell) : Shell :=
  { session := { sh.session with currentDir := path }, world := { sh.world with cwd := place } }

theorem enter_cases (arg path : Text) (sh : Shell) :
    (sh.Follows (sh.enter arg path).1 ∧ (sh.enter arg path).2 = .error (.noSuchDirectory arg) ∧
        ∀ place, ¬ Enterable sh.world.disk sh.world.cwd path place) ∨
      ∃ place, Enterable sh.world.disk sh.world.cwd path place ∧
        sh.enter arg path = (sh.movedTo path place, .ok 0) := by
  unfold enter
  split
  · rename_i hd
    split
    · rename_i cause he
      refine Or.inl ⟨follows_note _ sh, rfl, fun place h => ?_⟩
      rw [h.entered] at he
      cases he
    · rename_i place he
      exact Or.inr ⟨place, ⟨hd, he⟩, rfl⟩
  · rename_i hd
    exact Or.inl ⟨.refl sh, rfl, fun place h => hd h.isDirectory⟩

/-- The argument means a directory that can be entered. -/
def Reaches (d : Disk) (sh : Shell) (arg path : Text) (place : Place) : Prop :=
  ∃ t, target? sh.session arg = some t ∧ path = Path.normalize t ∧
    Enterable d sh.world.cwd path place

theorem reaches_congr {d : Disk} {arg path : Text} {place : Place} (h : sh.Still sh') :
    Reaches d sh' arg path place ↔ Reaches d sh arg path place := by
  unfold Reaches
  rw [h.session, h.cwd]

/-- With an argument, `cd` moves where it can, and fails elsewhere. -/
theorem cd_cases (arg : Text) (rest : List Text) (sh : Shell) :
    (sh.Follows (sh.cd (arg :: rest)).1 ∧
        (sh.cd (arg :: rest)).2 = .error (.noSuchDirectory arg) ∧
        ∀ path place, ¬ Reaches sh.world.disk sh arg path place) ∨
      ∃ path place, Reaches sh.world.disk sh arg path place ∧
        sh.cd (arg :: rest) = (sh.movedTo path place, .ok 0) := by
  rw [cd]
  cases ht : target? sh.session arg with
  | none =>
    refine Or.inl ⟨.refl sh, rfl, fun path place h => ?_⟩
    obtain ⟨t, ht', -⟩ := h
    rw [ht] at ht'
    cases ht'
  | some t =>
    rcases enter_cases arg (Path.normalize t) sh with ⟨hf, he, hn⟩ | ⟨place, hd, hm⟩
    · refine Or.inl ⟨hf, he, fun path place h => ?_⟩
      obtain ⟨t', ht', rfl, hd⟩ := h
      rw [ht] at ht'
      cases ht'
      exact hn place hd
    · exact Or.inr ⟨_, place, ⟨t, ht, rfl, hd⟩, hm⟩

theorem runBuiltin_cases (b : Builtin) (args : List Text) (out : Outlet) (sh : Shell) :
    sh.Follows (sh.runBuiltin b args out).1 ∨
      (b = .exit ∧ sh.runBuiltin b args out =
        ({ sh with session := { sh.session with exiting := true } }, .ok 0)) ∨
      b = .cd ∧ ∃ arg rest path place, args = arg :: rest ∧
        Reaches sh.world.disk sh arg path place ∧
        sh.runBuiltin b args out = (sh.movedTo path place, .ok 0) := by
  cases b with
  | exit => exact Or.inr (Or.inl ⟨rfl, rfl⟩)
  | echo => exact Or.inl (follows_say _ _ _ sh)
  | type => exact Or.inl (follows_typeNames args out sh)
  | pwd => exact Or.inl (follows_say _ _ _ sh)
  | cd =>
    cases args with
    | nil => exact Or.inl (.refl sh)
    | cons arg rest =>
      rcases cd_cases arg rest sh with ⟨hf, -⟩ | ⟨path, place, hd, hm⟩
      · exact Or.inl hf
      · exact Or.inr (Or.inr ⟨rfl, arg, rest, path, place, rfl, hd, hm⟩)

/-- A failed built-in has the status of a failure. What it prints at the end changes no status. -/
theorem executeBuiltin_status (b : Builtin) (c : Command) (o : Outlets) (sh : Shell) :
    (sh.executeBuiltin b c o).2 =
      match (sh.runBuiltin b c.arguments o.output).2 with
      | .ok code => code
      | .error _ => failureStatus := by
  unfold executeBuiltin
  generalize sh.runBuiltin b c.arguments o.output = r
  obtain ⟨sh₁, f | code⟩ := r
  · rfl
  · rfl

theorem still_launch (run : Runner) (l : Launch) (o : Outlets) (sh : Shell) :
    sh.Still { sh with world := (sh.world.launch run l o).1 } := by
  have hc := (follows_close o sh).still
  rcases launch_cases run l o sh.world with he | ⟨process, he⟩
  · rw [he]
    exact hc
  · rw [he]
    exact hc.trans ⟨rfl, (World.resume_spec _ _).2.2.1⟩

/-- A program moves no session, whatever it does. -/
theorem still_executeProgram (run : Runner) (path : Text) (c : Command) (o : Outlets)
    (sh : Shell) : sh.Still (sh.executeProgram run path c o).1 :=
  executeProgram_stages sh.Still sh.Still run path c o
    (fun r sh' h => h.trans (follows_note r sh').still)
    (fun l sh' h => h.trans (still_launch run l o sh'))
    (fun f sh' h => h.trans (follows_report .own f sh').still)
    (fun r sh' h => h.trans (follows_note r sh').still)
    (follows_of_steady (World.steady_flush sh.world)).still

/-- The line has a command, and nothing keeps it from being run. -/
structure Commands (line : Text) (sh : Shell) (l : CommandLine) (c : Command) : Prop where
  parsed : CommandLine.parse? line = some l
  command : l.command = some c
  opens : sh.Opens l

/-- All that can become of a session in a line that ends with a status. -/
inductive Turn (line : Text) (sh : Shell) : Shell × Int → Prop
  | still {r : Shell × Int} (h : sh.Still r.1) : Turn line sh r
  | exit {r : Shell × Int} {l : CommandLine} {c : Command} (h : Commands line sh l c)
      (hn : c.name = Builtin.exit.name)
      (hs : r.1.session = { sh.session with exiting := true })
      (hw : r.1.world.cwd = sh.world.cwd) (hr : r.2 = 0) : Turn line sh r
  | enter {r : Shell × Int} {l : CommandLine} {c : Command} {arg path : Text} {rest : List Text}
      (h : Commands line sh l c) (hn : c.name = Builtin.cd.name) (ha : c.arguments = arg :: rest)
      (he : Reaches (sh.targets l).1.disk sh arg path r.1.world.cwd)
      (hs : r.1.session = { sh.session with currentDir := path })
      (hd : (sh.targets l).1.disk.Extends r.1.world.disk) (hr : r.2 = 0) : Turn line sh r

theorem follows_targets (l : CommandLine) (sh : Shell) :
    sh.Follows { sh with world := (sh.targets l).1 } :=
  follows_of_steady ((World.silent_note _ _).trans (World.silent_openTargets _ _ _ _ _)).steady

theorem turn_executeBuiltin {w : World} {b : Builtin} (o : Outlets) (h : Commands line sh l c)
    (hw : (sh.targets l).1 = w) (hn : c.name = b.name) :
    Turn line sh ({ sh with world := w }.executeBuiltin b c o) := by
  have hf : sh.Follows { sh with world := w } := hw ▸ follows_targets l sh
  have hrest := follows_executeBuiltin b c o { sh with world := w }
  have hstatus := executeBuiltin_status b c o { sh with world := w }
  rcases runBuiltin_cases b c.arguments o.output { sh with world := w } with
    hb | ⟨rfl, hb⟩ | ⟨rfl, arg, rest, path, place, ha, hreach, hb⟩
  · exact .still (hf.trans (hb.trans hrest)).still
  · rw [hb] at hrest hstatus
    exact .exit h hn hrest.session (hrest.world.cwd.trans hf.world.cwd) hstatus
  · rw [hb] at hrest hstatus
    have hcwd : ({ sh with world := w }.executeBuiltin .cd c o).1.world.cwd = place :=
      hrest.world.cwd
    refine .enter h hn ha ?_ hrest.session ?_ hstatus
    · rw [hcwd, hw]
      exact (reaches_congr hf.still).1 hreach
    · rw [hw]
      exact hrest.world.entries

theorem turn_executeCommand {w : World} (run : Runner) (o : Outlets) (h : Commands line sh l c)
    (hw : (sh.targets l).1 = w) :
    Turn line sh ({ sh with world := w }.executeCommand run c o) := by
  have hf : sh.Follows { sh with world := w } := hw ▸ follows_targets l sh
  unfold executeCommand
  split
  · rename_i b hm
    refine turn_executeBuiltin o h hw (Builtin.name_of_ofName? ?_)
    unfold meaning at hm
    split at hm
    · cases hm
      assumption
    · split at hm <;> cases hm
  · exact .still (hf.still.trans (still_executeProgram run _ c o _))
  · have hr := follows_report o.errors (.commandNotFound c.name) { sh with world := w }
    exact .still (hf.trans (hr.trans (follows_close o _))).still

/-- Nothing on the disk takes the place of a built-in. -/
theorem execute_of_builtin {b : Builtin} (run : Runner) (h : Commands line sh l c)
    (hn : c.name = b.name) :
    ∃ o, sh.execute run line = { sh with world := (sh.targets l).1 }.executeBuiltin b c o := by
  obtain ⟨hl, hc, o, ho⟩ := h
  refine ⟨o, ?_⟩
  have hm : ({ sh with world := (sh.targets l).1 } : Shell).meaning c.name = .builtin b := by
    rw [meaning, hn, Builtin.ofName?_name]
  have hopened : sh.targets l = ((sh.targets l).1, .ok o) := by rw [← ho]
  rw [execute_eq hl, hopened, hc]
  dsimp only
  rw [executeCommand, hm]

/-- A line whose `cd` is run fails and moves nothing unless it can move, and then it does. -/
theorem execute_cd {arg : Text} {rest : List Text} (run : Runner) (h : Commands line sh l c)
    (hn : c.name = Builtin.cd.name) (ha : c.arguments = arg :: rest) :
    (sh.Still (sh.execute run line).1 ∧ (sh.execute run line).2 = failureStatus ∧
        ∀ path place, ¬ Reaches (sh.targets l).1.disk sh arg path place) ∨
      ∃ path place, Reaches (sh.targets l).1.disk sh arg path place ∧
        (sh.execute run line).2 = 0 ∧
        (sh.execute run line).1.session = { sh.session with currentDir := path } ∧
        (sh.execute run line).1.world.cwd = place ∧
        (sh.targets l).1.disk.Extends (sh.execute run line).1.world.disk := by
  have hf := follows_targets l sh
  obtain ⟨o, he⟩ := execute_of_builtin run h hn
  rw [he]
  have hrest := follows_executeBuiltin .cd c o { sh with world := (sh.targets l).1 }
  have hstatus := executeBuiltin_status .cd c o { sh with world := (sh.targets l).1 }
  rw [runBuiltin, ha] at hrest hstatus
  rcases cd_cases arg rest { sh with world := (sh.targets l).1 } with
    ⟨hstill, herror, hno⟩ | ⟨path, place, hreach, hmoved⟩
  · rw [herror] at hstatus
    refine Or.inl ⟨(hf.trans (hstill.trans hrest)).still, hstatus, fun path place h => ?_⟩
    exact hno path place ((reaches_congr hf.still).2 h)
  · rw [hmoved] at hrest hstatus
    exact Or.inr ⟨path, place, (reaches_congr hf.still).1 hreach, hstatus, hrest.session,
      hrest.world.cwd, hrest.world.entries⟩

/-- Whatever a line says, that is all that becomes of the session. -/
theorem execute_turn (run : Runner) (line : Text) (sh : Shell) :
    Turn line sh (sh.execute run line) := by
  cases hl : CommandLine.parse? line with
  | none =>
    rw [execute_blank hl]
    exact .still (.refl sh)
  | some l =>
    have hf := follows_targets l sh
    rw [execute_eq hl]
    cases hr : sh.targets l with
    | mk w result =>
      rw [hr] at hf
      cases result with
      | error f => exact .still (hf.trans (follows_report _ f _)).still
      | ok o =>
        cases hc : l.command with
        | none => exact .still (hf.trans (follows_close o _)).still
        | some c =>
          have hopens : sh.Opens l := ⟨o, by rw [hr]⟩
          exact turn_executeCommand run o ⟨hl, hc, hopens⟩ (by rw [hr])

end Shell
end CommandShell
