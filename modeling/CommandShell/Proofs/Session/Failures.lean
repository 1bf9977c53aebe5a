import CommandShell.Proofs.Fault.Wording
import CommandShell.Proofs.Session.Dispatch
/-! How a line can fail, and what becomes of a failure: one message, and nothing else is told. -/
namespace CommandShell

variable {run : Runner} {w w' w'' : World} {e e' e'' : Sink}

/-- Nobody has written to a stream but programs, if they did. -/
inductive PassedOn (run : Runner) (e : Sink) : Sink → Prop
  | same : PassedOn run e e
  | program {s : Surroundings} (process : Process) (h : PassedOn run e s.errors) :
      PassedOn run e (run process s).surroundings.errors

theorem PassedOn.trans (h : PassedOn run e e') (h' : PassedOn run e' e'') : PassedOn run e e'' := by
  induction h' with
  | same => exact h
  | program process _ ih => exact .program process ih

/-- Programs leave the stream of the errors alone. -/
def Runner.Spares (run : Runner) : Prop :=
  ∀ process s, (run process s).surroundings.errors = s.errors

theorem PassedOn.eq_of_spares (hr : run.Spares) (h : PassedOn run e e') : e' = e := by
  induction h with
  | same => rfl
  | program process _ ih => exact (hr process _).trans ih

namespace World

/-- The shell has told the user nothing, whatever its programs have written. -/
structure Unspoken (run : Runner) (w w' : World) : Prop where
  messages : w'.messages = w.messages
  log : w.log = none → w'.log = none
  errors : w.Discreet → w'.Discreet ∧ PassedOn run w.surroundings.errors w'.surroundings.errors

theorem Hushed.unspoken (h : w.Hushed w') : w.Unspoken run w' := by
  refine ⟨h.quiet.messages, h.log_none, fun hd => ?_⟩
  obtain ⟨hd', he⟩ := h.quiet.errors hd
  rw [he]
  exact ⟨hd', .same⟩

theorem Unspoken.refl (w : World) : w.Unspoken run w := (Hushed.refl w).unspoken

theorem Unspoken.trans (h : w.Unspoken run w') (h' : w'.Unspoken run w'') : w.Unspoken run w'' := by
  refine ⟨h'.messages.trans h.messages, fun hl => h'.log (h.log hl), fun hd => ?_⟩
  obtain ⟨hd', he⟩ := h.errors hd
  obtain ⟨hd'', he'⟩ := h'.errors hd'
  exact ⟨hd'', he.trans he'⟩

theorem unspoken_note (w : World) {r : Record} (h : r.failed? = none) : w.Unspoken run (w.note r) := by
  refine ⟨by rw [messages_note, h]; rfl, fun hl => ?_, fun hd => ?_⟩
  · rw [note_unlogged hl]
    exact hl
  · obtain ⟨hd', he⟩ := note_discreet hd r
    rw [he]
    exact ⟨hd', .same⟩

theorem unspoken_resume (w : World) (process : Process) :
    w.Unspoken run (w.resume (run process w.surroundings)) := by
  obtain ⟨hnoted, hlog⟩ := resume_noted w (run process w.surroundings)
  obtain ⟨hs, -⟩ := resume_spec w (run process w.surroundings)
  refine ⟨by rw [messages, hnoted, messages], hlog.trans, fun hd => ⟨?_, ?_⟩⟩
  · rw [Discreet, hlog]
    exact hd
  · rw [hs]
    exact .program process .same

theorem unspoken_launch (run : Runner) (l : Launch) (o : Outlets) (w : World) :
    w.Unspoken run (w.launch run l o).1 := by
  have hclose : w.Unspoken run (o.close w) := (hushed_close w o).unspoken
  rcases Shell.launch_cases run l o w with he | ⟨process, he⟩
  · rw [he]
    exact hclose
  · rw [he]
    exact hclose.trans (unspoken_resume _ process)

theorem complain_own_errors {t : Stream} (he : w.surroundings.errors = .stream t) (message : Text) :
    (w.complain .own message).1.log = w.log ∧
      (w.complain .own message).1.surroundings.errors = .stream (t.display (message ++ "\n")).1 := by
  have hwrite : w.writeErrors (Utf8.encode (message ++ "\n")) =
      ({ w with surroundings := { w.surroundings with
          errors := .stream (t.write (Utf8.encode (message ++ "\n"))).1 } },
        (t.write (Utf8.encode (message ++ "\n"))).2.map (·.cause)) := by
    rw [writeErrors, Surroundings.writeErrors, he]
  rw [complain, hwrite, Stream.display]
  cases t.write (Utf8.encode (message ++ "\n")) with
  | mk t' short =>
    cases short with
    | some short => exact ⟨rfl, rfl⟩
    | none => exact ⟨rfl, rfl⟩

/-- A message to the shell's own errors is displayed there once. -/
theorem report_own_errors {t : Stream} (hd : w.Discreet) (he : w.surroundings.errors = .stream t)
    (message : Text) :
    (w.report .own message).Discreet ∧
      (w.report .own message).surroundings.errors = .stream (t.display (message ++ "\n")).1 := by
  obtain ⟨hd', he'⟩ := note_discreet hd (.failed message)
  obtain ⟨hlog, hsaid⟩ := complain_own_errors (he'.trans he) message
  rw [Discreet, ← hlog] at hd'
  rw [report]
  cases hr : (w.note (.failed message)).complain .own message with
  | mk w' fault =>
    rw [hr] at hd' hsaid
    cases fault with
    | none => exact ⟨hd', hsaid⟩
    | some cause =>
      obtain ⟨hd'', he''⟩ := note_discreet hd' (.notReported message)
      exact ⟨hd'', he''.trans hsaid⟩

/-- A message to a file is no message to the shell's own errors. -/
theorem report_handle_errors (hd : w.Discreet) (h : Handle) (message : Text) :
    (w.report (.handle h) message).Discreet ∧
      (w.report (.handle h) message).surroundings.errors = w.surroundings.errors := by
  refine report_stages (fun w' => w'.Discreet ∧ w'.surroundings.errors = w.surroundings.errors)
    message (fun r w' hw => ?_) (fun w' hw => ?_) ⟨hd, rfl⟩
  · obtain ⟨hd', he⟩ := note_discreet hw.1 r
    exact ⟨hd', he.trans hw.2⟩
  · obtain ⟨hd', he⟩ := (hushed_writeHandle w' h (Utf8.encode (message ++ "\n"))).quiet.errors hw.1
    exact ⟨hd', he.trans hw.2⟩

end World

/-- The message begins with the name. -/
def Failure.Of (name : Text) (f : Failure) : Prop := ∃ rest : Text, f.message = name ++ ": " ++ rest

/-- The status of a command that failed so. -/
def Failure.status : Failure → Int
  | commandNotFound _ => notFoundStatus
  | _ => failureStatus

/-- The stream of the shell's own errors after a failure was told of. -/
def Stream.told (t : Stream) : Option (Failure × Outlet) → Stream
  | some (f, .own) => (t.display (f.message ++ "\n")).1
  | _ => t

namespace Shell

variable {sh : Shell} {c : Command} {o : Outlets} {line : Text} {f : Failure} {out : Outlet}

/-- How a command that is run can fail, and where the user is told of it. -/
inductive CommandFails (run : Runner) (c : Command) (o : Outlets) (sh : Shell) :
    Failure → Outlet → Prop
  | builtin {b : Builtin} {f : Failure} (hm : sh.meaning c.name = .builtin b)
      (hf : (sh.runBuiltin b c.arguments o.output).2 = .error f) : CommandFails run c o sh f o.errors
  | unresolved (hm : sh.meaning c.name = .nothing) :
      CommandFails run c o sh (.commandNotFound c.name) o.errors
  | launch {path : Text} {cause : Fault} (hm : sh.meaning c.name = .program path)
      (hf : (sh.launched run path c o).2 = .error cause) :
      CommandFails run c o sh (.launch c.name cause) .own

/-- The targets of a line are open and its command is run with them. -/
structure Runs (line : Text) (sh : Shell) (c : Command) (o : Outlets) (w : World) : Prop where
  intro ::
  line : ∃ l, CommandLine.parse? line = some l ∧ l.command = some c ∧ sh.targets l = (w, .ok o)

/-- How a line can fail: a target cannot be opened, or the command fails. -/
inductive Fails (run : Runner) (line : Text) (sh : Shell) : Failure → Outlet → Prop
  | redirection {l : CommandLine} {f : Failure} (hl : CommandLine.parse? line = some l)
      (hf : (sh.targets l).2 = .error f) : Fails run line sh f .own
  | command {c : Command} {o : Outlets} {w : World} {f : Failure} {out : Outlet}
      (hr : Runs line sh c o w) (hf : CommandFails run c o { sh with world := w } f out) :
      Fails run line sh f out

/-- At most one failure is told of, and the status is that of the failure. -/
structure Told (run : Runner) (w : World) (told : Option (Failure × Outlet)) (r : Shell × Int) :
    Prop where
  silent : told = none → w.Unspoken run r.1.world
  spoken : ∀ f out, told = some (f, out) → r.2 = f.status ∧
    ∃ before, w.Unspoken run before ∧ (before.report out f.message).Unspoken run r.1.world

theorem told_none {r : Shell × Int} (h : w.Unspoken run r.1.world) : Told run w none r :=
  ⟨fun _ => h, nofun⟩

theorem told_some {r : Shell × Int} (hs : r.2 = f.status) (h : w.Unspoken run w')
    (h' : (w'.report out f.message).Unspoken run r.1.world) : Told run w (some (f, out)) r := by
  refine ⟨nofun, fun f' out' he => ?_⟩
  cases he
  exact ⟨hs, w', h, h'⟩

theorem Told.after {told : Option (Failure × Outlet)} {r : Shell × Int} (h : w.Unspoken run w')
    (ht : Told run w' told r) : Told run w told r := by
  refine ⟨fun hn => h.trans (ht.silent hn), fun f out hs => ?_⟩
  obtain ⟨hstatus, before, hb, ha⟩ := ht.spoken f out hs
  exact ⟨hstatus, before, h.trans hb, ha⟩

theorem unspoken_launched (run : Runner) (path : Text) (c : Command) (o : Outlets) (sh : Shell) :
    sh.world.Unspoken run (sh.launched run path c o).1 := by
  obtain ⟨-, w, hhushed, hw⟩ := prepared_spec path c sh
  have hprepared : sh.world.Unspoken run (sh.prepared path c).world := by
    rw [hw]
    exact hhushed.unspoken.trans (World.unspoken_note w rfl)
  exact hprepared.trans (World.unspoken_launch run _ o _)

theorem commandFails_builtin {b : Builtin} (hm : sh.meaning c.name = .builtin b) :
    CommandFails run c o sh f out ↔
      (sh.runBuiltin b c.arguments o.output).2 = .error f ∧ out = o.errors := by
  constructor
  · intro h
    cases h with
    | builtin hm' hf =>
      cases hm.symm.trans hm'
      exact ⟨hf, rfl⟩
    | unresolved hm' => exact nomatch hm.symm.trans hm'
    | launch hm' hf => exact nomatch hm.symm.trans hm'
  · rintro ⟨hf, rfl⟩
    exact .builtin hm hf

theorem commandFails_program {path : Text} (hm : sh.meaning c.name = .program path) :
    CommandFails run c o sh f out ↔
      ∃ cause, (sh.launched run path c o).2 = .error cause ∧ f = .launch c.name cause ∧
        out = .own := by
  constructor
  · intro h
    cases h with
    | builtin hm' hf => exact nomatch hm.symm.trans hm'
    | unresolved hm' => exact nomatch hm.symm.trans hm'
    | launch hm' hf =>
      cases hm.symm.trans hm'
      exact ⟨_, hf, rfl, rfl⟩
  · rintro ⟨cause, hf, rfl, rfl⟩
    exact .launch hm hf

theorem commandFails_nothing (hm : sh.meaning c.name = .nothing) :
    CommandFails run c o sh f out ↔ f = .commandNotFound c.name ∧ out = o.errors := by
  constructor
  · intro h
    cases h with
    | builtin hm' hf => exact nomatch hm.symm.trans hm'
    | unresolved hm' => exact ⟨rfl, rfl⟩
    | launch hm' hf => exact nomatch hm.symm.trans hm'
  · rintro ⟨rfl, rfl⟩
    exact .unresolved hm

theorem error_of_say {b : Builtin} {texts : List Text} (h : (sh.say b out texts).2 = .error f) :
    f.status = failureStatus ∧ f.Of b.name := by
  unfold say at h
  dsimp only at h
  split at h
  · cases h
  · cases h
    exact ⟨rfl, _, rfl⟩

theorem error_of_cd {args : List Text} (h : (sh.cd args).2 = .error f) :
    ∃ arg, f = .noSuchDirectory arg := by
  cases args with
  | nil => cases h
  | cons arg rest =>
    rcases cd_cases arg rest sh with ⟨-, he, -⟩ | ⟨path, place, -, hmoved⟩
    · rw [he] at h
      cases h
      exact ⟨arg, rfl⟩
    · rw [hmoved] at h
      cases h

/-- A built-in's failure bears its name. -/
theorem error_of_runBuiltin {b : Builtin} {args : List Text}
    (h : (sh.runBuiltin b args out).2 = .error f) :
    f.status = failureStatus ∧ f.Of b.name := by
  cases b with
  | exit => cases h
  | echo => exact error_of_say h
  | pwd => exact error_of_say h
  | type =>
    rw [runBuiltin, typeNames] at h
    split at h
    · cases h
      exact ⟨rfl, "missing operand", rfl⟩
    · rw [typeEach_eq] at h
      dsimp only at h
      split at h
      · cases h
      · cases h
        exact ⟨rfl, _, rfl⟩
  | cd =>
    obtain ⟨arg, rfl⟩ := error_of_cd h
    exact ⟨rfl, arg ++ ": No such file or directory", rfl⟩

theorem told_executeBuiltin (run : Runner) (b : Builtin) (c : Command) (o : Outlets) (sh : Shell) :
    ∃ told, (∀ f out, (sh.runBuiltin b c.arguments o.output).2 = .error f ∧ out = o.errors ↔
        told = some (f, out)) ∧
      Told run sh.world told (sh.executeBuiltin b c o) := by
  have hrun := hushed_runBuiltin b c.arguments o.output sh
  have herror : ∀ f, (sh.runBuiltin b c.arguments o.output).2 = .error f →
      f.status = failureStatus := fun f h => (error_of_runBuiltin h).1
  rw [executeBuiltin_eq]
  generalize sh.runBuiltin b c.arguments o.output = r at hrun herror
  obtain ⟨sh', f | code⟩ := r
  · have hended := hushed_windUp c o (sh'.report o.errors f)
    refine ⟨some (f, o.errors), fun f' out => ?_,
      told_some (herror f rfl).symm hrun.unspoken hended.unspoken⟩
    rw [Except.error.injEq, Option.some.injEq, Prod.mk.injEq, eq_comm (a := o.errors)]
  · refine ⟨none, fun f' out => iff_of_false ?_ (Option.some_ne_none _).symm,
      told_none (hrun.trans (hushed_windUp c o sh')).unspoken⟩
    rintro ⟨h, -⟩
    cases h

theorem told_executeProgram (run : Runner) (path : Text) (c : Command) (o : Outlets) (sh : Shell) :
    ∃ told, (∀ f out, (∃ cause, (sh.launched run path c o).2 = .error cause ∧
          f = .launch c.name cause ∧ out = .own) ↔ told = some (f, out)) ∧
      Told run sh.world told (sh.executeProgram run path c o) := by
  have hlaunched := unspoken_launched run path c o sh
  rw [executeProgram_eq]
  generalize sh.launched run path c o = r at hlaunched
  obtain ⟨w, cause | status⟩ := r
  · refine ⟨some (.launch c.name cause, .own), fun f out => ?_, told_some rfl hlaunched (.refl _)⟩
    constructor
    · rintro ⟨cause', hc, rfl, rfl⟩
      cases hc
      rfl
    · intro h
      cases h
      exact ⟨cause, rfl, rfl, rfl⟩
  · have hended : w.Unspoken run (if w.killedBy.isSome then { sh with world := w }
        else { sh with world := w }.note (.finished c.name status)).world := by
      split
      · exact .refl w
      · exact World.unspoken_note w rfl
    refine ⟨none, fun f out => iff_of_false ?_ (Option.some_ne_none _).symm,
      told_none (hlaunched.trans hended)⟩
    rintro ⟨_, h, -⟩
    cases h

theorem told_executeCommand (run : Runner) (c : Command) (o : Outlets) (sh : Shell) :
    ∃ told, (∀ f out, CommandFails run c o sh f out ↔ told = some (f, out)) ∧
      Told run sh.world told (sh.executeCommand run c o) := by
  rw [executeCommand]
  cases hm : sh.meaning c.name with
  | builtin b =>
    simp only [commandFails_builtin hm]
    exact told_executeBuiltin run b c o sh
  | program path =>
    simp only [commandFails_program hm]
    exact told_executeProgram run path c o sh
  | nothing =>
    refine ⟨some (.commandNotFound c.name, o.errors), fun f out => ?_, ?_⟩
    · rw [commandFails_nothing hm, Option.some.injEq, Prod.mk.injEq, eq_comm (a := f),
        eq_comm (a := out)]
    · exact told_some rfl (.refl sh.world) (World.hushed_close _ o).unspoken

theorem error_of_openTargets {command currentDir : Text} {rs : Redirects} {o : Outlets} {w : World}
    (h : (World.openTargets command currentDir rs o w).2 = .error f) :
    f.status = failureStatus ∧ f.Of command := by
  induction rs generalizing o w with
  | nil => cases h
  | cons r rs ih =>
    obtain ⟨fd, target⟩ := r
    unfold World.openTargets at h
    split at h
    · split at h
      · rename_i w' cause _
        cases h
        exact ⟨rfl, target ++ (": " ++ cause.reason), by simp [Failure.message]⟩
      · exact ih h
    · exact ih h

/-- A failure bears the name of the command, or that of the shell. -/
theorem Fails.attributed (h : Fails run line sh f out) :
    ∃ l, CommandLine.parse? line = some l ∧ f.Of l.opener := by
  cases h with
  | redirection hl hf => exact ⟨_, hl, (error_of_openTargets hf).2⟩
  | command hr hf =>
    rename_i c o w
    obtain ⟨l, hl, hc, -⟩ := hr.line
    have hopener : l.opener = c.name := by rw [CommandLine.opener, hc]
    refine ⟨l, hl, ?_⟩
    rw [hopener]
    cases hf with
    | builtin hm hf =>
      rw [name_of_meaning hm]
      exact (error_of_runBuiltin hf).2
    | unresolved hm => exact ⟨"command not found", by simp [Failure.message]⟩
    | launch hm hf => exact ⟨_, rfl⟩

/-- A line fails with a target that cannot be opened, and otherwise with its command. -/
theorem fails_iff {l : CommandLine} (hl : CommandLine.parse? line = some l) :
    Fails run line sh f out ↔
      match sh.targets l with
      | (_, .error f') => f' = f ∧ Outlet.own = out
      | (w, .ok o) => ∃ c, l.command = some c ∧ CommandFails run c o { sh with world := w } f out := by
  constructor
  · intro h
    cases h with
    | redirection hl' hf =>
      cases hl.symm.trans hl'
      cases ht : sh.targets l with
      | mk w result =>
        rw [ht] at hf
        cases hf
        exact ⟨rfl, rfl⟩
    | command hr hf =>
      obtain ⟨l', hl', hc, ht⟩ := hr.line
      cases hl.symm.trans hl'
      rw [ht]
      exact ⟨_, hc, hf⟩
  · intro h
    cases ht : sh.targets l with
    | mk w result =>
      rw [ht] at h
      cases result with
      | error f' =>
        obtain ⟨rfl, rfl⟩ := h
        exact .redirection hl (by rw [ht])
      | ok o =>
        obtain ⟨c, hc, hf⟩ := h
        exact .command ⟨l, hl, hc, ht⟩ hf

/-- What a line has to say comes after its targets are open, or of the one that cannot be opened. -/
theorem told_execute (run : Runner) (line : Text) (sh : Shell) :
    ∃ told, (∀ f out, Fails run line sh f out ↔ told = some (f, out)) ∧
      Told run sh.world told (sh.execute run line) := by
  cases hl : CommandLine.parse? line with
  | none =>
    rw [execute_blank hl]
    refine ⟨none, fun f out => iff_of_false (fun h => ?_) (Option.some_ne_none _).symm,
      told_none (.refl _)⟩
    obtain ⟨l, hl', -⟩ := h.attributed
    cases hl.symm.trans hl'
  | some l =>
    have hopened : sh.world.Unspoken run (sh.targets l).1 := (hushed_targets l sh).unspoken
    rw [execute_eq hl]
    simp only [fails_iff hl]
    cases ht : sh.targets l with
    | mk w result =>
      rw [ht] at hopened
      cases result with
      | error f =>
        have herror : (sh.targets l).2 = .error f := by rw [ht]
        refine ⟨some (f, .own), fun f' out => ?_,
          told_some (error_of_openTargets herror).1.symm hopened (.refl _)⟩
        rw [Option.some.injEq, Prod.mk.injEq]
      | ok o =>
        cases hc : l.command with
        | none =>
          have hclosed := hopened.trans (World.hushed_close w o).unspoken
          refine ⟨none, fun f out => iff_of_false ?_ (Option.some_ne_none _).symm,
            told_none hclosed⟩
          rintro ⟨_, h, -⟩
          cases h
        | some c =>
          obtain ⟨told, hfails, htold⟩ := told_executeCommand run c o { sh with world := w }
          refine ⟨told, fun f out => ?_, htold.after hopened⟩
          rw [← hfails]
          refine ⟨?_, fun h => ⟨c, rfl, h⟩⟩
          rintro ⟨c', hc', hf⟩
          cases hc'
          exact hf

theorem Told.messages {told : Option (Failure × Outlet)} {r : Shell × Int}
    (h : Told run w told r) :
    r.1.world.messages = (told.map (·.1.message)).toList ++ w.messages := by
  cases told with
  | none => exact (h.silent rfl).messages
  | some t =>
    obtain ⟨f, out⟩ := t
    obtain ⟨-, before, hb, ha⟩ := h.spoken f out rfl
    rw [ha.messages, World.messages_report, hb.messages]
    rfl

/-- What is on the shell's own errors after a line, if nobody else writes there. -/
theorem Told.errors {told : Option (Failure × Outlet)} {r : Shell × Int} {t : Stream}
    (h : Told run w told r) (hd : w.Discreet) (hr : run.Spares)
    (he : w.surroundings.errors = .stream t) :
    r.1.world.surroundings.errors = .stream (t.told told) := by
  cases told with
  | none => exact ((h.silent rfl).errors hd).2.eq_of_spares hr ▸ he
  | some tell =>
    obtain ⟨f, out⟩ := tell
    obtain ⟨-, before, hb, ha⟩ := h.spoken f out rfl
    obtain ⟨hd', hpassed⟩ := hb.errors hd
    have hbefore : before.surroundings.errors = .stream t := (hpassed.eq_of_spares hr).trans he
    cases out with
    | own =>
      obtain ⟨hd'', hsaid⟩ := World.report_own_errors hd' hbefore f.message
      exact ((ha.errors hd'').2.eq_of_spares hr).trans hsaid
    | handle handle =>
      obtain ⟨hd'', hsaid⟩ := World.report_handle_errors hd' handle f.message
      exact ((ha.errors hd'').2.eq_of_spares hr).trans (hsaid.trans hbefore)

/-- `type` does not fail because of what it finds, but only because of what it cannot write. -/
theorem not_commandFails_type (hn : c.name = Builtin.type.name) (ha : c.arguments ≠ [])
    (hw : (World.print o.output (sh.typePieces c.arguments) sh.world).2 = none) :
    ¬ CommandFails run c o sh f out := by
  have hm : sh.meaning c.name = .builtin .type := by rw [hn, meaning_builtin]
  have hfull : ¬ c.arguments.isEmpty = true := by simpa using ha
  rw [commandFails_builtin hm, runBuiltin, typeNames, if_neg hfull, typeEach_eq, hw]
  rintro ⟨h, -⟩
  cases h

/-- A program that could be started and waited for is no failure, however it ended. -/
theorem not_commandFails_program {path : Text} {status : WaitStatus}
    (hm : sh.meaning c.name = .program path) (hl : (sh.launched run path c o).2 = .ok status) :
    ¬ CommandFails run c o sh f out := by
  rw [commandFails_program hm, hl]
  rintro ⟨_, h, -⟩
  cases h

theorem fails_command_iff (h : Runs line sh c o w) :
    Fails run line sh f out ↔ CommandFails run c o { sh with world := w } f out := by
  obtain ⟨l, hl, hc, ht⟩ := h.line
  rw [fails_iff hl, ht]
  refine ⟨?_, fun h => ⟨c, hc, h⟩⟩
  rintro ⟨c', hc', hf⟩
  cases hc.symm.trans hc'
  exact hf

end Shell
end CommandShell
