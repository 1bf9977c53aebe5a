import CommandShell.Proofs.Session.Addressed
/-! What the user is told of a line: one message for a failure, and nothing else. -/
namespace CommandShell

variable {run : Runner}

namespace World

variable {w w' : World} {h : Handle} {file : OpenFile}

/-- Bytes are written through a handle, once, and nothing else is written. -/
structure Writes (h : Handle) (file : OpenFile) (bs : Bytes) (w w' : World) : Prop where
  surroundings : w'.surroundings = (w.surroundings.writeFile file bs).1
  descriptors : w'.descriptors = w.descriptors.update h (w.surroundings.writeFile file bs).2.1

theorem writeHandle_writes (hg : w.descriptors.get? h = some file) (bs : Bytes) :
    w.Writes h file bs (w.writeHandle h bs).1 := by
  rw [writeHandle, hg]
  exact ⟨rfl, rfl⟩

theorem writeHandle_log (w : World) (h : Handle) (bs : Bytes) :
    (w.writeHandle h bs).1.log = w.log := by
  unfold writeHandle
  split <;> rfl

/-- A message to a file is written there once. -/
theorem report_writes (hl : w.log = none) (hg : w.descriptors.get? h = some file) (message : Text) :
    w.Writes h file (Utf8.encode (message ++ "\n")) (w.report (.handle h) message) := by
  have hwritten := writeHandle_writes (w := { w with noted := .failed message :: w.noted }) hg
    (Utf8.encode (message ++ "\n"))
  have hlog := writeHandle_log { w with noted := .failed message :: w.noted } h
    (Utf8.encode (message ++ "\n"))
  rw [report, note_unlogged hl, complain]
  generalize World.writeHandle { w with noted := .failed message :: w.noted } h
    (Utf8.encode (message ++ "\n")) = r at hwritten hlog
  obtain ⟨w', _ | cause⟩ := r
  · exact ⟨hwritten.surroundings, hwritten.descriptors⟩
  · dsimp only
    rw [note_unlogged (hlog.trans hl)]
    exact ⟨hwritten.surroundings, hwritten.descriptors⟩

end World

namespace Shell

variable {sh : Shell} {line t : Text} {l : CommandLine} {f : Failure} {h : Handle} {d₁ d₂ : Disk}
  {outFile : Option Nat} {n : Nat}

/-- A failure is told of through the handle that was opened for the errors of the command. The file
is as it was opened until then, and with no log one line goes there. -/
inductive ToldThrough (run : Runner) (line : Text) (sh : Shell) (f : Failure) (h : Handle) : Prop
  | intro {l : CommandLine} {t : Text} {w before : World} {o : Outlets} {file : OpenFile}
      (hl : CommandLine.parse? line = some l) (ht : l.redirects.target? standardError = some t)
      (hw : sh.targets l = (w, .ok o)) (hd : Diverted sh l t w o h file)
      (hb : sh.world.Unspoken run before) (hg : before.descriptors.get? h = some file)
      (hs : sh.world.log = none → before.Writes h file (Utf8.encode (f.message ++ "\n"))
        (before.report (.handle h) f.message))
      (ha : (before.report (.handle h) f.message).Unspoken run (sh.execute run line).1.world)

/-- A failure goes to the errors of the command, or it is one of its launch. -/
theorem CommandFails.outlet {c : Command} {o : Outlets} {out : Outlet}
    (hf : CommandFails run c o sh f out) :
    (out = o.errors ∧ ∀ cause, f ≠ .launch c.name cause) ∨ out = .own := by
  cases hf with
  | builtin hm hfail =>
    refine Or.inl ⟨rfl, ?_⟩
    rintro cause rfl
    exact runBuiltin_ne_launch _ _ _ _ _ _ hfail
  | unresolved hm => exact Or.inl ⟨rfl, nofun⟩
  | launch hm hfail => exact Or.inr rfl

theorem target_of_errors {w : World} {o : Outlets} (hl : CommandLine.parse? line = some l)
    (hw : sh.targets l = (w, .ok o)) (he : o.errors = .handle h) :
    ∃ t, l.redirects.target? standardError = some t := by
  cases ht : l.redirects.target? standardError with
  | some t => exact ⟨t, rfl⟩
  | none =>
    rw [targets, World.openTargets_eq _ _ (CommandLine.ascending_of_parse? hl), ht] at hw
    split at hw
    · cases hw
    · cases hw
      cases he

/-- Only a command tells of a failure in a file, and never of one to start its program. -/
theorem Fails.of_handle (hf : Fails run line sh f (.handle h)) :
    ∃ l c t w o file, CommandLine.parse? line = some l ∧ l.command = some c ∧
      l.redirects.target? standardError = some t ∧ sh.targets l = (w, .ok o) ∧
      Diverted sh l t w o h file ∧ ∀ cause, f ≠ .launch c.name cause := by
  cases hf with
  | command hr hfail =>
    rename_i c o w
    obtain ⟨l, hl, hc, hw⟩ := hr.line
    rcases hfail.outlet with ⟨he, hne⟩ | he
    · obtain ⟨t, ht⟩ := target_of_errors hl hw he.symm
      obtain ⟨h', file, hd⟩ := diverted_targets hl ht hw
      cases he.trans hd.errors
      exact ⟨l, c, t, w, o, file, hl, hc, ht, hw, hd, hne⟩
    · cases he

theorem toldThrough (hf : Fails run line sh f (.handle h)) : ToldThrough run line sh f h := by
  obtain ⟨l, c, t, w, o, file, hl, hc, ht, hw, hd, hne⟩ := hf.of_handle
  cases addressed_execute hl hc hw hd hf with
  | target _ hb hg ha =>
    refine .intro hl ht hw hd hb hg (fun hlog => ?_) ha
    exact World.report_writes (hb.log hlog) hg f.message

theorem delivered_of_fails (hl : CommandLine.parse? line = some l)
    (ht : l.redirects.target? standardError = some t) (hs : Supplied l sh outFile (some n) d₁ d₂)
    (hf : Fails run line sh f (.handle h)) :
    Delivered d₁ (sh.execute run line).1.world.disk sh.world.cwd
      (Path.join sh.session.currentDir t) n (Utf8.encode (f.message ++ "\n")) := by
  obtain ⟨l', c, -, -, -, -, hl', hc, -, -, -, hne⟩ := hf.of_handle
  cases hl.symm.trans hl'
  exact delivered_execute hl hc ht hs hf hne

/-- A line that fails is the occasion of one message, and a line that does not fail of none: neither
an unknown name that `type` was asked about nor the way a program ended is a failure. The message
begins with the name of the command as it was typed, or with that of the shell, and ends with one
newline. The status is that of the failure, whether the message arrives or not. As long as no log
and no program writes to the shell's own errors, the message is all that is written there. A message
to a file is written through a handle through which nothing was written before, and in a file of its
own it is all that is there afterwards. -/
theorem execute_messages (run : Runner) (line : Text) (sh : Shell) :
    ∃ told : Option (Failure × Outlet),
      (∀ f out, Fails run line sh f out ↔ told = some (f, out)) ∧
      (sh.execute run line).1.world.messages =
        (told.map (·.1.message)).toList ++ sh.world.messages ∧
      (told = none → sh.world.Unspoken run (sh.execute run line).1.world) ∧
      (∀ f out, told = some (f, out) →
        (∃ before, sh.world.Unspoken run before ∧
          (before.report out f.message).Unspoken run (sh.execute run line).1.world) ∧
        (∃ l, CommandLine.parse? line = some l ∧ f.Of l.opener) ∧
        ((∀ cause, f.cause? = some cause → cause.OneLine) → f.message.getLast? ≠ some '\n') ∧
        (sh.execute run line).2 = f.status) ∧
      (∀ t, sh.world.Discreet → run.Spares → sh.world.surroundings.errors = .stream t →
        (sh.execute run line).1.world.surroundings.errors = .stream (t.told told)) ∧
      (∀ f h, told = some (f, .handle h) →
        ToldThrough run line sh f h ∧
        ∀ l t n outFile d₁ d₂, CommandLine.parse? line = some l →
          l.redirects.target? standardError = some t → Supplied l sh outFile (some n) d₁ d₂ →
          Delivered d₁ (sh.execute run line).1.world.disk sh.world.cwd
            (Path.join sh.session.currentDir t) n (Utf8.encode (f.message ++ "\n"))) ∧
      ∀ c o w, Runs line sh c o w →
        (c.name = Builtin.type.name → c.arguments ≠ [] →
          (World.print o.output (typePieces { sh with world := w } c.arguments) w).2 = none →
          told = none) ∧
        ∀ path status, meaning { sh with world := w } c.name = .program path →
          (launched run path c o { sh with world := w }).2 = .ok status → told = none := by
  obtain ⟨told, hfails, htold⟩ := told_execute run line sh
  have hnone : ∀ c o w, Runs line sh c o w →
      (∀ f out, ¬ CommandFails run c o { sh with world := w } f out) → told = none := by
    intro c o w hr hno
    cases told with
    | none => rfl
    | some t => exact absurd ((fails_command_iff hr).1 ((hfails t.1 t.2).2 rfl)) (hno _ _)
  refine ⟨told, hfails, htold.messages, htold.silent, fun f out hf => ?_,
    fun t hd hr he => htold.errors hd hr he, fun f h hf => ?_,
    fun c o w hr => ⟨fun hn ha hw => ?_, ?_⟩⟩
  · obtain ⟨hstatus, hspoken⟩ := htold.spoken f out hf
    exact ⟨hspoken, ((hfails f out).2 hf).attributed, f.message_getLast?, hstatus⟩
  · have hfail := (hfails f (.handle h)).2 hf
    exact ⟨toldThrough hfail, fun l t n outFile d₁ d₂ hl ht hs => delivered_of_fails hl ht hs hfail⟩
  · exact hnone c o w hr fun f out => not_commandFails_type hn ha hw
  · exact fun path status hm hl => hnone c o w hr fun f out => not_commandFails_program hm hl

end Shell
end CommandShell
