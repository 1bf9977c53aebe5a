import CommandShell.Proofs.Session.Addressed
/-! A command with a target for its errors. What it complains of goes there, but for one failure:
that of starting its program or of waiting for it. -/
namespace CommandShell

variable {run : Runner} {w w' w'' : World} {log log' : Option Log} {e e' e'' : Sink}

/-- Nobody has written to a stream but programs, and a log whose records go there. -/
inductive Overheard (run : Runner) (log : Option Log) (e : Sink) : Sink → Prop
  | same : Overheard run log e e
  | program {s : Surroundings} (process : Process) (h : Overheard run log e s.errors) :
      Overheard run log e (run process s).surroundings.errors
  | record {s : Surroundings} {l : Log} (r : Record) (hl : log = some l) (hf : l.file = none)
      (h : Overheard run log e s.errors) :
      Overheard run log e (s.writeErrors (Utf8.encode (r.line l.stamp l.colored))).1.errors

theorem Overheard.trans (hlog : ∀ l, l.file = none → log' = some l → log = some l)
    (h : Overheard run log e e') (h' : Overheard run log' e' e'') : Overheard run log e e'' := by
  induction h' with
  | same => exact h
  | program process _ ih => exact .program process ih
  | record r hl hf _ ih => exact .record r (hlog _ hf hl) hf ih

theorem Overheard.passedOn (hd : ∀ l, log = some l → l.file ≠ none) (h : Overheard run log e e') :
    PassedOn run e e' := by
  induction h with
  | same => exact .same
  | program process _ ih => exact .program process ih
  | record r hl hf _ _ => exact absurd hf (hd _ hl)

namespace World

/-- The shell has written nothing to its own errors but records, if they go there. -/
structure Reticent (run : Runner) (w w' : World) : Prop where
  log : ∀ l, l.file = none → w'.log = some l → w.log = some l
  errors : Overheard run w.log w.surroundings.errors w'.surroundings.errors

theorem reticent_of_eq (hl : w'.log = w.log) (he : w'.surroundings.errors = w.surroundings.errors) :
    w.Reticent run w' := by
  refine ⟨fun l _ h => hl.symm.trans h, ?_⟩
  rw [he]
  exact .same

theorem Reticent.refl (w : World) : w.Reticent run w := reticent_of_eq rfl rfl

theorem Reticent.trans (h : w.Reticent run w') (h' : w'.Reticent run w'') : w.Reticent run w'' :=
  ⟨fun l hf hl => h.log l hf (h'.log l hf hl), h.errors.trans h.log h'.errors⟩

theorem reticent_note (w : World) (r : Record) : w.Reticent run (w.note r) := by
  unfold note
  dsimp only
  split
  · exact reticent_of_eq rfl rfl
  · rename_i l hl
    split
    · unfold writeLog
      split
      · rename_i hf
        exact ⟨fun _ _ h => h, .record r hl hf .same⟩
      · refine ⟨fun l' hf' hl' => ?_, .same⟩
        cases hl'
        cases hf'
    · exact reticent_of_eq rfl rfl

theorem Hushed.reticent (h : w.Hushed w') : w.Reticent run w' := by
  induction h with
  | aside _ hl he => exact reticent_of_eq hl he
  | note w _ _ => exact reticent_note w _
  | trans _ _ ih ih' => exact ih.trans ih'

/-- A message to a file is none to the shell's own errors. -/
theorem reticent_report_handle (w : World) (h : Handle) (message : Text) :
    w.Reticent run (w.report (.handle h) message) :=
  report_stages (w.Reticent run) message (fun r w' hw => hw.trans (reticent_note w' r))
    (fun w' hw => hw.trans (hushed_writeHandle w' h _).reticent) (.refl w)

theorem reticent_launch (run : Runner) (l : Launch) (o : Outlets) (w : World) :
    w.Reticent run (w.launch run l o).1 := by
  have hclose : w.Reticent run (o.close w) := (hushed_close w o).reticent
  rcases Shell.launch_cases run l o w with he | ⟨process, he⟩
  · rw [he]
    exact hclose
  · rw [he]
    obtain ⟨-, hlog⟩ := resume_noted (o.close w) (run process (o.close w).surroundings)
    obtain ⟨hs, -⟩ := resume_spec (o.close w) (run process (o.close w).surroundings)
    refine hclose.trans ⟨fun l _ hl => hlog.symm.trans hl, ?_⟩
    rw [hs]
    exact .program process .same

end World

namespace Shell

variable {sh : Shell} {line t : Text} {l : CommandLine} {c : Command} {o : Outlets} {h : Handle}
  {file : OpenFile} {d : Disk} {f : Failure} {out : Outlet}

theorem reticent_launched (run : Runner) (path : Text) (c : Command) (o : Outlets) (sh : Shell) :
    sh.world.Reticent run (sh.launched run path c o).1 := by
  obtain ⟨-, w, hhushed, hw⟩ := prepared_spec path c sh
  have hprepared : sh.world.Reticent run (sh.prepared path c).world := by
    rw [hw]
    exact hhushed.reticent.trans (World.reticent_note w _)
  exact hprepared.trans (World.reticent_launch run _ o _)

/-- Only a program that could not be launched is told of to the shell's own errors. -/
theorem reticent_execute {w : World} (hl : CommandLine.parse? line = some l)
    (hc : l.command = some c) (ht : sh.targets l = (w, .ok o)) (ho : o.errors = .handle h)
    (hno : ∀ cause, ¬ Fails run line sh (.launch c.name cause) .own) :
    sh.world.Reticent run (sh.execute run line).1.world := by
  have hopened : sh.world.Hushed w := by
    have htargets := hushed_targets l sh
    rwa [ht] at htargets
  rw [execute_of_targets hl hc ht, executeCommand]
  cases hm : ({ sh with world := w } : Shell).meaning c.name with
  | builtin b =>
    have hrun := hushed_runBuiltin b c.arguments o.output { sh with world := w }
    dsimp only
    rw [executeBuiltin_eq, ho]
    generalize ({ sh with world := w } : Shell).runBuiltin b c.arguments o.output = r at hrun
    obtain ⟨sh', f | code⟩ := r
    · have htold : sh'.world.Reticent run _ := World.reticent_report_handle _ h f.message
      have hended := hushed_windUp c o (sh'.report (.handle h) f)
      exact ((hopened.trans hrun).reticent.trans htold).trans hended.reticent
    · exact ((hopened.trans hrun).trans (hushed_windUp c o sh')).reticent
  | nothing =>
    have htold : w.Reticent run _ :=
      World.reticent_report_handle w h (Failure.message (.commandNotFound c.name))
    rw [ho]
    exact (hopened.reticent.trans htold).trans (World.hushed_close _ o).reticent
  | program path =>
    have hlaunched : w.Reticent run _ := reticent_launched run path c o { sh with world := w }
    have hfine : ∀ cause,
        (({ sh with world := w } : Shell).launched run path c o).2 ≠ .error cause :=
      fun cause he => hno cause ((fails_command_iff ⟨l, hl, hc, ht⟩).2 (.launch hm he))
    dsimp only
    rw [executeProgram_eq]
    generalize ({ sh with world := w } : Shell).launched run path c o = r at hlaunched hfine
    obtain ⟨w', cause | status⟩ := r
    · exact absurd rfl (hfine cause)
    · have hended := hopened.reticent.trans hlaunched
      dsimp only
      split
      · exact hended
      · exact hended.trans (World.reticent_note w' _)

/-- A line has a target for the errors of its command, and all its targets open. Then every failure
is told of in that target, which is as it was opened until then, but for one: that its program
cannot be started or waited for is told to the shell's own errors. Unless it is, nobody writes there
but programs and the log. A message that is told in a file of its own is all that is in the file. -/
theorem complaints_diverted (run : Runner) (line : Text) (sh : Shell) (l : CommandLine)
    (c : Command) (t : Text) (hl : CommandLine.parse? line = some l) (hc : l.command = some c)
    (ht : l.redirects.target? standardError = some t) (ho : sh.Opens l) :
    ∃ w o h file, sh.targets l = (w, .ok o) ∧ Diverted sh l t w o h file ∧
      (∀ f out, Fails run line sh f out →
        Addressed run c h file sh.world (sh.execute run line).1.world f out) ∧
      ((∀ cause, ¬ Fails run line sh (.launch c.name cause) .own) →
        sh.world.Reticent run (sh.execute run line).1.world ∧
          (sh.world.Discreet → run.Spares →
            (sh.execute run line).1.world.surroundings.errors = sh.world.surroundings.errors)) ∧
      ∀ n outFile d₁ d₂ f out, Supplied l sh outFile (some n) d₁ d₂ → Fails run line sh f out →
        (∀ cause, f ≠ .launch c.name cause) →
        Delivered d₁ (sh.execute run line).1.world.disk sh.world.cwd
          (Path.join sh.session.currentDir t) n (Utf8.encode (f.message ++ "\n")) := by
  obtain ⟨o, hopen⟩ := ho
  obtain ⟨w, hw⟩ : ∃ w, sh.targets l = (w, .ok o) := ⟨_, Prod.ext rfl hopen⟩
  obtain ⟨h, file, hd⟩ := diverted_targets hl ht hw
  refine ⟨w, o, h, file, hw, hd, fun f out hf => addressed_execute hl hc hw hd hf, fun hno => ?_,
    fun n outFile d₁ d₂ f out hs hf hne => delivered_execute hl hc ht hs hf hne⟩
  have hreticent := reticent_execute hl hc hw hd.errors hno
  exact ⟨hreticent, fun hdiscreet hr => (hreticent.errors.passedOn hdiscreet).eq_of_spares hr⟩

/-- A shell that finds a program that is empty. -/
def toolShell : Shell :=
  sampleShell.mapWorld fun w =>
    { w with surroundings := { w.surroundings with
        disk := w.surroundings.disk.put ["tool"] 0o755 .file } }

def strayLine : Text := "cd nowhere 2> b"

def strayParse : CommandLine := ⟨some ⟨"cd", ["nowhere"]⟩, [(2, "b")]⟩

/-- The disk with the target of the errors on it. -/
def strayDisk : Disk :=
  (toolShell.world.disk.put ["b"] 0o644 .file).refill toolShell.world.disk.next []

theorem supplied_stray :
    Supplied strayParse toolShell none (some 12) toolShell.world.disk strayDisk := by
  have he : toolShell.world.disk.openFile toolShell.world.cwd .truncate
      (Path.join toolShell.session.currentDir "b") =
        .ok (strayDisk, ⟨.content 12, 0, false, .writing⟩) := by decide +kernel
  have hown : toolShell.world.ownFiles none (some 12) = [] := by decide +kernel
  refine ⟨.absent, .opened he, nofun, nofun, ?_⟩
  rw [hown]
  exact fun _ _ => List.not_mem_nil

/-- The line fails, and not with a launch. -/
theorem fails_stray :
    Fails idleRunner strayLine toolShell (.noSuchDirectory "nowhere") (.handle 3) ∧
      ∀ name cause, ¬ Fails idleRunner strayLine toolShell (.launch name cause) .own := by
  have hruns : Runs strayLine toolShell ⟨"cd", ["nowhere"]⟩ ⟨.own, .handle 3⟩
      (toolShell.targets strayParse).1 :=
    ⟨strayParse, by decide +kernel, rfl, by decide +kernel⟩
  have hm : ({ toolShell with world := (toolShell.targets strayParse).1 } : Shell).meaning "cd" =
      .builtin .cd := by decide +kernel
  refine ⟨(fails_command_iff hruns).2 (.builtin hm (by decide +kernel)), fun name cause hf => ?_⟩
  obtain ⟨hlaunch, -⟩ := (commandFails_builtin hm).1 ((fails_command_iff hruns).1 hf)
  exact runBuiltin_ne_launch _ _ _ _ _ _ hlaunch

theorem complaints_diverted_cd :
    CommandLine.parse? strayLine = some strayParse ∧ toolShell.Opens strayParse ∧
      Fails idleRunner strayLine toolShell (.noSuchDirectory "nowhere") (.handle 3) ∧
      (toolShell.execute idleRunner strayLine).1.world.surroundings.errors =
        toolShell.world.surroundings.errors ∧
      (toolShell.execute idleRunner strayLine).1.world.disk.content 12 =
        Utf8.encode "cd: nowhere: No such file or directory\n".toList := by
  have hl : CommandLine.parse? strayLine = some strayParse := by decide +kernel
  have ho : toolShell.Opens strayParse := ⟨⟨.own, .handle 3⟩, by decide +kernel⟩
  obtain ⟨hf, hno⟩ := fails_stray
  obtain ⟨w, o, h, file, -, -, -, hquiet, hfile⟩ := complaints_diverted idleRunner strayLine
    toolShell strayParse ⟨"cd", ["nowhere"]⟩ "b" hl rfl rfl ho
  obtain ⟨-, herrors⟩ := hquiet fun cause => hno "cd" cause
  have hdiscreet : toolShell.world.Discreet := nofun
  have hspares : idleRunner.Spares := fun _ _ => rfl
  obtain ⟨k, mode, -, -, hcontent⟩ := hfile 12 none _ _ _ _ supplied_stray hf nofun
  exact ⟨hl, ho, hf, herrors hdiscreet hspares, hcontent⟩

/-- The program cannot be started, and the target of the errors stays empty. -/
theorem launch_not_diverted :
    ∃ l, CommandLine.parse? "./tool 2> b" = some l ∧ l.command = some ⟨"./tool", []⟩ ∧
      l.redirects.target? standardError = some "b" ∧ toolShell.Opens l ∧
      Fails idleRunner "./tool 2> b" toolShell
        (.launch "./tool" (.system .notExecutable)) .own ∧
      (toolShell.execute idleRunner "./tool 2> b").1.world.heard =
        Utf8.encode "./tool: Exec format error\n".toList ∧
      (toolShell.execute idleRunner "./tool 2> b").1.world.disk.content 12 = [] := by
  have hl : CommandLine.parse? "./tool 2> b" = some ⟨some ⟨"./tool", []⟩, [(2, "b")]⟩ := by
    decide +kernel
  have hruns : Runs "./tool 2> b" toolShell ⟨"./tool", []⟩ ⟨.own, .handle 3⟩
      (toolShell.targets ⟨some ⟨"./tool", []⟩, [(2, "b")]⟩).1 :=
    ⟨_, hl, rfl, by decide +kernel⟩
  have hm : ({ toolShell with world :=
      (toolShell.targets ⟨some ⟨"./tool", []⟩, [(2, "b")]⟩).1 } : Shell).meaning "./tool" =
        .program "/./tool" := by decide +kernel
  refine ⟨_, hl, rfl, rfl, ⟨⟨.own, .handle 3⟩, by decide +kernel⟩, ?_, by decide +kernel,
    by decide +kernel⟩
  exact (fails_command_iff hruns).2 (.launch hm (by decide +kernel))

end Shell
end CommandShell
