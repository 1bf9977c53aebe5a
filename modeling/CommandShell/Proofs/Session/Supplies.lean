import CommandShell.Proofs.Program.Variables
import CommandShell.Proofs.Session.Parts
import CommandShell.Proofs.World.Remarks
/-! What a process was given: its variables and its input. No work of the shell changes them, and the
programs that it starts only take from the input. -/
namespace CommandShell

variable {run : Runner} {i j k : Intake}

/-- What is left of an input after programs that were given it one after another. -/
inductive Intake.Leaves (run : Runner) (i : Intake) : Intake → Prop
  | all : Leaves run i i
  | program {p : Process} (s : Surroundings) (h : Leaves run i p.input) :
      Leaves run i (run p s).input

theorem Intake.Leaves.trans (h : i.Leaves run j) (h' : j.Leaves run k) : i.Leaves run k := by
  induction h' with
  | all => exact h
  | program s _ ih => exact .program s ih

namespace World

variable {w w' w'' : World}

/-- The variables are as they were, and the input is what programs leave of it. -/
structure Supplied (run : Runner) (w w' : World) : Prop where
  environment : w'.environment = w.environment
  input : w.input.Leaves run w'.input

theorem Supplied.refl (run : Runner) (w : World) : w.Supplied run w := ⟨rfl, .all⟩

theorem Supplied.trans (h : w.Supplied run w') (h' : w'.Supplied run w'') : w.Supplied run w'' :=
  ⟨h'.environment.trans h.environment, h.input.trans h'.input⟩

theorem Untouched.supplied (h : w.Untouched w') : w.Supplied run w' := by
  refine ⟨h.environment, ?_⟩
  rw [h.input]
  exact .all

theorem supplied_release (w : World) : w.Supplied run w.release.1 := by
  unfold release
  split <;> exact ⟨rfl, .all⟩

theorem supplied_writeOwn (w : World) (bs : Bytes) : w.Supplied run (w.writeOwn bs).1 :=
  writeOwn_stages (w.Supplied run) (fun w' h => h.trans (supplied_release w'))
    (fun _ _ h => h.trans ⟨rfl, .all⟩) (fun _ _ h => h.trans ⟨rfl, .all⟩) bs (.refl run w)

theorem supplied_writeHandle (w : World) (h : Handle) (bs : Bytes) :
    w.Supplied run (w.writeHandle h bs).1 := by
  unfold writeHandle
  split <;> exact ⟨rfl, .all⟩

theorem supplied_write (w : World) (out : Outlet) (bs : Bytes) :
    w.Supplied run (w.write out bs).1 := by
  cases out with
  | own => exact supplied_writeOwn w bs
  | handle h => exact supplied_writeHandle w h bs

theorem supplied_print (w : World) (out : Outlet) (ts : List Text) :
    w.Supplied run (print out ts w).1 :=
  print_stages (w.Supplied run) (fun bs w' h => h.trans (supplied_write w' out bs)) ts (.refl run w)

theorem supplied_flush (w : World) : w.Supplied run w.flush.1 :=
  next_stage (w.Supplied run) (fun _ h => h.trans ⟨rfl, .all⟩) (supplied_release w)

theorem supplied_flushOutlet (w : World) (out : Outlet) :
    w.Supplied run (w.flushOutlet out).1 := by
  cases out with
  | own => exact supplied_flush w
  | handle h => exact .refl run w

theorem supplied_note (w : World) (r : Record) : w.Supplied run (w.note r) :=
  (mutters_note w r).supplied

theorem supplied_complain (w : World) (out : Outlet) (message : Text) :
    w.Supplied run (w.complain out message).1 := by
  cases out with
  | own => exact (mutters_complain w message).1.supplied
  | handle h => exact supplied_writeHandle w h _

theorem supplied_report (w : World) (out : Outlet) (message : Text) :
    w.Supplied run (w.report out message) :=
  report_stages (w.Supplied run) message (fun r w' h => h.trans (supplied_note w' r))
    (fun w' h => h.trans (supplied_complain w' out message)) (.refl run w)

theorem supplied_close (w : World) (o : Outlets) : w.Supplied run (o.close w) :=
  (remarks_closeOutlet o.output w).supplied.trans (remarks_closeOutlet o.errors _).supplied

theorem supplied_openFile (w : World) (how : Opening) (path : Text) :
    w.Supplied run (w.openFile how path).1 := by
  unfold openFile
  split <;> exact ⟨rfl, .all⟩

theorem supplied_openTargets (command currentDir : Text) (rs : Redirects) (o : Outlets)
    (w : World) : w.Supplied run (openTargets command currentDir rs o w).1 := by
  induction rs generalizing o w with
  | nil => exact .refl run w
  | cons r rs ih =>
    obtain ⟨fd, target⟩ := r
    unfold openTargets
    split
    · have h : w.Supplied run (w.openFile .truncate (Path.join currentDir target)).1 :=
        supplied_openFile ..
      split
      · rename_i w' cause he
        rw [he] at h
        exact h.trans (supplied_close w' o)
      · rename_i w' handle he
        rw [he] at h
        exact h.trans (ih _ w')
    · exact (supplied_note w _).trans (ih o _)

theorem supplied_receive (w : World) (signal : Nat) : w.Supplied run (w.receive signal) := by
  unfold receive
  split
  · exact .refl run w
  · split <;> exact ⟨rfl, .all⟩

/-- A program is given the input of the process, and what it leaves is the process's again. -/
theorem supplied_launch (l : Launch) (o : Outlets) (w : World) :
    w.Supplied run (w.launch run l o).1 := by
  have hclose : w.Supplied run (o.close w) := supplied_close w o
  unfold launch
  split
  · exact hclose
  · rename_i process hstart
    refine resume_stages (w.Supplied run) _ (fun signal w' h => h.trans (supplied_receive w' signal))
      ⟨hclose.environment, .program _ ?_⟩
    rw [(Launch.start_spec hstart).2.2]
    exact .all

end World

namespace Shell

theorem supplied_runBuiltin (b : Builtin) (args : List Text) (out : Outlet) (sh : Shell) :
    sh.world.Supplied run (sh.runBuiltin b args out).1.world :=
  runBuiltin_stages (sh.world.Supplied run) (fun ts w h => h.trans (World.supplied_print w out ts))
    (fun _ _ w h => h.trans (World.supplied_note w _)) (fun _ _ h => h.trans ⟨rfl, .all⟩) b args
    (.refl run sh.world)

theorem supplied_executeBuiltin (b : Builtin) (c : Command) (o : Outlets) (sh : Shell) :
    sh.world.Supplied run (sh.executeBuiltin b c o).1.world :=
  executeBuiltin_stages (sh.world.Supplied run ·.world) (sh.world.Supplied run ·.world) b c o
    (fun f sh' h => h.trans (World.supplied_report sh'.world o.errors f.message))
    (fun sh' h => h.trans (World.supplied_flushOutlet sh'.world o.output))
    (fun r sh' h => h.trans (World.supplied_note sh'.world r))
    (fun sh' h => h.trans (World.supplied_close sh'.world o))
    (supplied_runBuiltin b c.arguments o.output sh)

theorem supplied_prepared (path : Text) (c : Command) (sh : Shell) :
    sh.world.Supplied run (sh.prepared path c).world := by
  have hflush : sh.world.Supplied run sh.world.flush.1 := World.supplied_flush sh.world
  unfold prepared
  split
  · exact hflush.trans (World.supplied_note _ _)
  · exact (hflush.trans (World.supplied_note _ _)).trans (World.supplied_note _ _)

theorem supplied_executeProgram (path : Text) (c : Command) (o : Outlets) (sh : Shell) :
    sh.world.Supplied run (sh.executeProgram run path c o).1.world :=
  executeProgram_stages (sh.world.Supplied run ·.world) (sh.world.Supplied run ·.world) run path c o
    (fun r sh' h => h.trans (World.supplied_note sh'.world r))
    (fun l sh' h => h.trans (World.supplied_launch l o sh'.world))
    (fun f sh' h => h.trans (World.supplied_report sh'.world .own f.message))
    (fun r sh' h => h.trans (World.supplied_note sh'.world r))
    (World.supplied_flush sh.world)

theorem supplied_executeCommand (c : Command) (o : Outlets) (sh : Shell) :
    sh.world.Supplied run (sh.executeCommand run c o).1.world := by
  unfold executeCommand
  split
  · exact supplied_executeBuiltin _ c o sh
  · exact supplied_executeProgram _ c o sh
  · exact (World.supplied_report sh.world o.errors _).trans (World.supplied_close _ o)

theorem supplied_targets (l : CommandLine) (sh : Shell) :
    sh.world.Supplied run (sh.targets l).1 :=
  (World.supplied_note sh.world _).trans (World.supplied_openTargets _ _ _ _ _)

theorem supplied_execute (run : Runner) (line : Text) (sh : Shell) :
    sh.world.Supplied run (sh.execute run line).1.world := by
  cases hl : CommandLine.parse? line with
  | none =>
    rw [execute_blank hl]
    exact .refl run sh.world
  | some l =>
    have htargets : sh.world.Supplied run (sh.targets l).1 := supplied_targets l sh
    rw [execute_eq hl]
    generalize sh.targets l = r at htargets ⊢
    obtain ⟨w, f | o⟩ := r
    · exact htargets.trans (World.supplied_report w .own f.message)
    · cases l.command with
      | none => exact htargets.trans (World.supplied_close w o)
      | some c => exact htargets.trans (supplied_executeCommand c o { sh with world := w })

end Shell
end CommandShell
