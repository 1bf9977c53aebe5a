import CommandShell.Proofs.Session.Blocked
import CommandShell.Proofs.Session.Footprint
/-! Where a command that has a target for its errors tells of a failure, and what is in that target
afterwards. -/
namespace CommandShell

variable {run : Runner} {w : World}

namespace Shell

variable {sh : Shell} {line t : Text} {l : CommandLine} {c : Command} {o : Outlets} {h : Handle}
  {file : OpenFile} {d : Disk} {f : Failure} {out : Outlet}

/-- The target of the errors is opened as this file, after that of the output. -/
def OpenedAs (sh : Shell) (l : CommandLine) (t : Text) (file : OpenFile) : Prop :=
  ∃ d d', OutputReady sh l d ∧
    d.openFile sh.world.cwd .truncate (Path.join sh.session.currentDir t) = .ok (d', file)

/-- The errors of the command go to the target that the line has for them, and no output does. -/
structure Diverted (sh : Shell) (l : CommandLine) (t : Text) (w : World) (o : Outlets) (h : Handle)
    (file : OpenFile) : Prop where
  errors : o.errors = .handle h
  output : o.output ≠ .handle h
  handle : w.descriptors.get? h = some file
  opened : OpenedAs sh l t file

/-- Once the output is ready, the target of the errors gets a handle of its own. -/
theorem diverted_errors (w₀ : World) {files : List Nat} (hready : OutputReady sh l d)
    (hd : d.AgreesBut files w₀.disk) (hcwd : w₀.cwd = sh.world.cwd)
    (hopen : ∀ h, out = .handle h → ∃ f, w₀.descriptors.get? h = some f)
    (ht : (match w₀.openStream sh.session.currentDir (some t) with
      | (w, .error cause) =>
        (w.closeOutlet out, .error (Failure.redirection l.opener ((some t).getD []) cause))
      | (w, .ok err) =>
        (w.ignoreAll (l.redirects.above standardError), .ok { output := out, errors := err })) =
      (w, Except.ok o)) :
    ∃ h file, Diverted sh l t w o h file := by
  have hstream := World.streamed_openStream sh.session.currentDir (some t) w₀
  generalize w₀.openStream sh.session.currentDir (some t) = r at hstream ht
  cases hstream with
  | failed he => cases ht
  | opened ho =>
    rename_i disk file
    cases ht
    rw [hcwd] at ho
    obtain ⟨d', hopened, -⟩ := hd.symm.openFile_ok ho
    refine ⟨_, file, rfl, fun he => ?_, ?_, d, d', hready, hopened⟩
    · obtain ⟨f, hf⟩ := hopen _ he
      exact (Descriptors.get?_insert_of_some hf file).2 rfl
    · rw [World.ignoreAll_descriptors]
      exact Descriptors.get?_insert_self _ _

theorem diverted_targets (hl : CommandLine.parse? line = some l)
    (ht : l.redirects.target? standardError = some t) (hw : sh.targets l = (w, .ok o)) :
    ∃ h file, Diverted sh l t w o h file := by
  have hpre := mutters_preamble l sh.world
  rw [targets, World.openTargets_eq _ _ (CommandLine.ascending_of_parse? hl), ht] at hw
  generalize (sh.world.note (.parsed l)).ignoreAll (l.redirects.below standardOutput) = w₀
    at hpre hw
  have hstream := World.streamed_openStream sh.session.currentDir
    (l.redirects.target? standardOutput) w₀
  generalize hout : l.redirects.target? standardOutput = target at hstream hw
  generalize w₀.openStream sh.session.currentDir target = r at hstream hw
  cases hstream with
  | failed he => cases hw
  | own => exact diverted_errors w₀ (.own hout) hpre.disk hpre.cwd (fun _ he => by cases he) hw
  | opened ho =>
    rename_i disk f
    rw [hpre.cwd] at ho
    obtain ⟨d, hopened, hd⟩ := hpre.disk.symm.openFile_ok ho
    have hfirst : ∀ h, Outlet.handle (w₀.descriptors.insert f).2 = .handle h →
        ∃ f', (w₀.descriptors.insert f).1.get? h = some f' := by
      intro h he
      cases he
      exact ⟨f, Descriptors.get?_insert_self _ _⟩
    exact diverted_errors { w₀ with
        surroundings := { w₀.surroundings with disk }
        descriptors := (w₀.descriptors.insert f).1 }
      (.opened hout hopened) hd.symm hpre.cwd hfirst hw

/-- Where a failure is told of: in the file that the target of the errors was opened as, if it is not
that of a launch. -/
inductive Addressed (run : Runner) (c : Command) (h : Handle) (file : OpenFile) (w w' : World) :
    Failure → Outlet → Prop
  | target {f : Failure} {before : World} (hf : ∀ cause, f ≠ .launch c.name cause)
      (hb : w.Unspoken run before) (hg : before.descriptors.get? h = some file)
      (ha : (before.report (.handle h) f.message).Unspoken run w') :
      Addressed run c h file w w' f (.handle h)
  | launch {cause : Fault} {before : World} (hb : w.Unspoken run before)
      (ha : (before.report .own (Failure.message (.launch c.name cause))).Unspoken run w') :
      Addressed run c h file w w' (.launch c.name cause) .own

theorem execute_of_targets {w : World} (hl : CommandLine.parse? line = some l)
    (hc : l.command = some c) (ht : sh.targets l = (w, .ok o)) :
    sh.execute run line = ({ sh with world := w } : Shell).executeCommand run c o := by
  rw [execute_eq hl, ht, hc]

/-- What a built-in prints does not go to the target of the errors. -/
theorem runBuiltin_get? (ho : o.output ≠ .handle h) (b : Builtin) (args : List Text) (sh : Shell) :
    (sh.runBuiltin b args o.output).1.world.descriptors.get? h = sh.world.descriptors.get? h := by
  refine runBuiltin_stages (fun w => w.descriptors.get? h = sh.world.descriptors.get? h)
    (fun ts w hw => ?_) (fun _ _ w hw => ?_) (fun _ _ hw => hw) b args rfl
  · cases hout : o.output with
    | own =>
      rw [(World.aside_print_own w ts).descriptors]
      exact hw
    | handle h' =>
      have hne : h ≠ h' := by
        rintro rfl
        exact ho hout
      exact ((World.fills_print_handle w h' ts).others h hne).trans hw
  · rw [World.note_descriptors]
    exact hw

theorem say_ne_launch (b : Builtin) (out : Outlet) (texts : List Text) (sh : Shell) (name : Text)
    (cause : Fault) : (sh.say b out texts).2 ≠ .error (.launch name cause) := by
  intro he
  unfold say at he
  dsimp only at he
  split at he
  · cases he
  · cases he

/-- No built-in launches anything. -/
theorem runBuiltin_ne_launch (b : Builtin) (args : List Text) (out : Outlet) (sh : Shell)
    (name : Text) (cause : Fault) :
    (sh.runBuiltin b args out).2 ≠ .error (.launch name cause) := by
  intro he
  cases b with
  | exit => cases he
  | echo => exact say_ne_launch _ _ _ _ _ _ he
  | pwd => exact say_ne_launch _ _ _ _ _ _ he
  | type =>
    rw [runBuiltin, typeNames] at he
    split at he
    · cases he
    · rw [typeEach_eq] at he
      dsimp only at he
      split at he
      · cases he
      · cases he
  | cd =>
    obtain ⟨arg, ha⟩ := error_of_cd he
    cases ha

/-- Until a failure is told of the target of the errors is as it was opened. -/
theorem addressed_execute {w : World} (hl : CommandLine.parse? line = some l)
    (hc : l.command = some c) (ht : sh.targets l = (w, .ok o)) (hd : Diverted sh l t w o h file)
    (hf : Fails run line sh f out) :
    Addressed run c h file sh.world (sh.execute run line).1.world f out := by
  have hopened : sh.world.Unspoken run w := by
    have htargets := hushed_targets l sh
    rw [ht] at htargets
    exact htargets.unspoken
  rw [execute_of_targets hl hc ht, executeCommand]
  cases (fails_command_iff ⟨l, hl, hc, ht⟩).1 hf with
  | builtin hm hfail =>
    rename_i b
    have hrun := hushed_runBuiltin b c.arguments o.output { sh with world := w }
    have hhandle := runBuiltin_get? hd.output b c.arguments { sh with world := w }
    have hne : ∀ cause, f ≠ .launch c.name cause := by
      rintro cause rfl
      exact runBuiltin_ne_launch _ _ _ _ _ _ hfail
    rw [hm]
    dsimp only
    rw [executeBuiltin_eq, hd.errors]
    generalize ({ sh with world := w } : Shell).runBuiltin b c.arguments o.output = r
      at hrun hhandle hfail
    obtain ⟨sh', outcome⟩ := r
    obtain rfl : outcome = .error f := hfail
    have hended := hushed_windUp c o (sh'.report (.handle h) f)
    exact .target hne (hopened.trans hrun.unspoken)
      (hhandle.trans hd.handle) hended.unspoken
  | unresolved hm =>
    have hne : ∀ cause, Failure.commandNotFound c.name ≠ .launch c.name cause := by
      rintro cause ⟨⟩
    rw [hm, hd.errors]
    exact .target hne hopened hd.handle (World.hushed_close _ o).unspoken
  | launch hm hfail =>
    rename_i path cause
    have hlaunched := unspoken_launched run path c o { sh with world := w }
    rw [hm]
    dsimp only
    rw [executeProgram_eq]
    generalize ({ sh with world := w } : Shell).launched run path c o = r at hlaunched hfail
    obtain ⟨w', result⟩ := r
    obtain rfl : result = .error cause := hfail
    exact .launch (hopened.trans hlaunched) (.refl _)

/-- The message is all that is in the target afterwards. -/
theorem delivered_execute {n : Nat} {outFile : Option Nat} {d₁ d₂ : Disk}
    (hl : CommandLine.parse? line = some l) (hc : l.command = some c)
    (ht : l.redirects.target? standardError = some t) (hs : Supplied l sh outFile (some n) d₁ d₂)
    (hf : Fails run line sh f out) (hne : ∀ cause, f ≠ .launch c.name cause) :
    Delivered d₁ (sh.execute run line).1.world.disk sh.world.cwd
      (Path.join sh.session.currentDir t) n (Utf8.encode (f.message ++ "\n")) := by
  obtain ⟨w, o, hw, hapart, hst⟩ := hs.targets (CommandLine.ascending_of_parse? hl)
  obtain ⟨bs, wf, hwf, he⟩ : ∃ bs wf, World.Stocked d₂ (sh.world.ownFiles outFile (some n)) o
      outFile (some n) bs (Utf8.encode (f.message ++ "\n")) wf ∧
        (sh.execute run line).1.world = o.close wf := by
    have hopened : World.Stocked d₂ (sh.world.ownFiles outFile (some n)) o outFile (some n) [] []
        ({ sh with world := w } : Shell).world := hst
    rw [execute_of_targets hl hc hw, executeCommand]
    cases (fails_command_iff ⟨l, hl, hc, hw⟩).1 hf with
    | builtin hm hfail =>
      rename_i b
      have hended := stocked_executeBuiltin hapart hopened b c
      rw [hfail] at hended
      rw [hm]
      exact ⟨_, hended⟩
    | unresolved hm =>
      rw [hm]
      exact ⟨_, _, hopened.report hapart _, rfl⟩
    | launch hm hfail => exact absurd rfl (hne _)
  have hdisk : (sh.execute run line).1.world.disk = wf.disk := by
    rw [he, Outlets.close, World.closeOutlet_disk, World.closeOutlet_disk]
  obtain ⟨t', k, mode, ht', hleads, hk⟩ := hs.errors.place
  cases ht.symm.trans ht'
  refine ⟨k, mode, hleads, ?_, ?_⟩
  · rw [hdisk, hwf.disk.lookup, hk]
  · rw [hdisk]
    exact hwf.errors.content.2

end Shell
end CommandShell
