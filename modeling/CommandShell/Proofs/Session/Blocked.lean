import CommandShell.Proofs.Session.Handles
import CommandShell.Proofs.Session.Repl
import CommandShell.Proofs.World.Remarks
/-! A line with a target that cannot be opened runs nothing. It is reported, and that is all. -/
namespace CommandShell

/-- What is told of a target that cannot be opened. -/
def CommandLine.complaint (l : CommandLine) (t : Text) (cause : Fault) : Text :=
  l.opener ++ ": " ++ t ++ ": " ++ cause.reason

/-- What is noted of a line before any of its targets is opened. -/
def CommandLine.preamble (l : CommandLine) : List Record :=
  .parsed l :: (l.redirects.below standardOutput).map fun r => .ignored r.1 r.2

namespace Shell

variable {sh : Shell} {line t t' : Text} {l : CommandLine} {cause cause' : Fault} {d d' : Disk}

/-- The line has no target for its output, or one that can be opened, and this is the disk then. -/
inductive OutputReady (sh : Shell) (l : CommandLine) : Disk → Prop
  | own (ht : l.redirects.target? standardOutput = none) : OutputReady sh l sh.world.disk
  | opened {t : Text} {d : Disk} {f : OpenFile} (ht : l.redirects.target? standardOutput = some t)
      (ho : sh.world.disk.openFile sh.world.cwd .truncate (Path.join sh.session.currentDir t) =
        .ok (d, f)) : OutputReady sh l d

/-- This target of the line is the first that cannot be opened, and this is the disk when it is
tried. -/
inductive Blocked (sh : Shell) (l : CommandLine) : Text → Fault → Disk → Prop
  | output {t : Text} {cause : Fault} (ht : l.redirects.target? standardOutput = some t)
      (he : sh.world.disk.openFile sh.world.cwd .truncate (Path.join sh.session.currentDir t) =
        .error cause) : Blocked sh l t cause sh.world.disk
  | errors {t : Text} {cause : Fault} {d : Disk} (ho : OutputReady sh l d)
      (ht : l.redirects.target? standardError = some t)
      (he : d.openFile sh.world.cwd .truncate (Path.join sh.session.currentDir t) =
        .error cause) : Blocked sh l t cause d

theorem OutputReady.unique (h : OutputReady sh l d) (h' : OutputReady sh l d') : d' = d := by
  cases h with
  | own ht =>
    cases h' with
    | own ht' => rfl
    | opened ht' ho' =>
      rw [ht] at ht'
      cases ht'
  | opened ht ho =>
    cases h' with
    | own ht' =>
      rw [ht] at ht'
      cases ht'
    | opened ht' ho' =>
      rw [ht] at ht'
      cases ht'
      rw [ho] at ho'
      cases ho'
      rfl

theorem OutputReady.openFile (h : OutputReady sh l d)
    (ht : l.redirects.target? standardOutput = some t) :
    ∃ f, sh.world.disk.openFile sh.world.cwd .truncate (Path.join sh.session.currentDir t) =
      .ok (d, f) := by
  cases h with
  | own ht' =>
    rw [ht] at ht'
    cases ht'
  | opened ht' ho =>
    rw [ht] at ht'
    cases ht'
    exact ⟨_, ho⟩

/-- Only one target can be the first that fails. -/
theorem Blocked.unique (h : Blocked sh l t cause d) (h' : Blocked sh l t' cause' d') :
    t' = t ∧ cause' = cause ∧ d' = d := by
  cases h with
  | output ht he =>
    cases h' with
    | output ht' he' =>
      rw [ht] at ht'
      cases ht'
      rw [he] at he'
      cases he'
      exact ⟨rfl, rfl, rfl⟩
    | errors ho' ht' he' =>
      obtain ⟨f, ho⟩ := ho'.openFile ht
      rw [he] at ho
      cases ho
  | errors ho ht he =>
    cases h' with
    | output ht' he' =>
      obtain ⟨f, hf⟩ := ho.openFile ht'
      rw [he'] at hf
      cases hf
    | errors ho' ht' he' =>
      obtain rfl := ho.unique ho'
      rw [ht] at ht'
      cases ht'
      rw [he] at he'
      cases he'
      exact ⟨rfl, rfl, rfl⟩

/-- The disk differs from before by the line's target of output at most. -/
theorem Blocked.disk (h : Blocked sh l t cause d) :
    d = sh.world.disk ∨
      l.redirects.target? standardError = some t ∧
        ∃ out, l.redirects.target? standardOutput = some out ∧
          sh.world.disk.Readied sh.world.cwd (Path.join sh.session.currentDir out) d := by
  cases h with
  | output => exact Or.inl rfl
  | errors ho ht he =>
    cases ho with
    | own => exact Or.inl rfl
    | opened ht' ho => exact Or.inr ⟨ht, _, ht', Disk.readied_of_openFile ho⟩

theorem mutters_preamble (l : CommandLine) (w : World) :
    World.Mutters l.preamble (l.preamble.flatMap w.recorded) w
      ((w.note (.parsed l)).ignoreAll (l.redirects.below standardOutput)) := by
  have hnote := World.mutters_note w (.parsed l)
  have hrest := World.mutters_ignoreAll (l.redirects.below standardOutput) (w.note (.parsed l))
  rw [hnote.recorded] at hrest
  have hboth := hnote.trans hrest
  rwa [← List.flatMap_map, ← List.flatMap_cons] at hboth

/-- What has happened when the targets of a line are found not to open. -/
structure Stopped (sh : Shell) (l : CommandLine) (t : Text) (cause : Fault) (d : Disk) (w : World) :
    Prop where
  blocked : Blocked sh l t cause d
  remarks : World.Remarks l.preamble (l.preamble.flatMap sh.world.recorded) sh.world w
  disk : d.AgreesBut sh.world.diaries w.disk

/-- What the result of opening the targets of a line tells. -/
inductive Tried (sh : Shell) (l : CommandLine) : World × Except Failure Outlets → Prop
  | stopped {t : Text} {cause : Fault} {d : Disk} {w : World} (h : Stopped sh l t cause d w) :
      Tried sh l (w, .error (.redirection l.opener t cause))
  | ready {w : World} {o : Outlets} (h : ∀ t cause d, ¬ Blocked sh l t cause d) :
      Tried sh l (w, .ok o)

theorem not_blocked (ho : OutputReady sh l d)
    (h : ∀ t, l.redirects.target? standardError = some t → ∀ cause,
      d.openFile sh.world.cwd .truncate (Path.join sh.session.currentDir t) ≠ .error cause)
    (t : Text) (cause : Fault) (d' : Disk) : ¬ Blocked sh l t cause d' := by
  intro hb
  cases hb with
  | output ht he =>
    obtain ⟨f, hf⟩ := ho.openFile ht
    rw [he] at hf
    cases hf
  | errors ho' ht he =>
    obtain rfl := ho.unique ho'
    exact h t ht cause he

/-- Once the output is ready, the errors decide. -/
theorem tried_errors {w : World} (out : Outlet) (ho : OutputReady sh l d)
    (hs : World.Remarks l.preamble (l.preamble.flatMap sh.world.recorded) sh.world w)
    (hd : d.AgreesBut sh.world.diaries w.disk) :
    Tried sh l
      (match w.openStream sh.session.currentDir (l.redirects.target? standardError) with
      | (w, .error cause) =>
        (w.closeOutlet out,
          .error (.redirection l.opener ((l.redirects.target? standardError).getD []) cause))
      | (w, .ok err) =>
        (w.ignoreAll (l.redirects.above standardError), .ok { output := out, errors := err })) := by
  have hstream := World.streamed_openStream sh.session.currentDir
    (l.redirects.target? standardError) w
  generalize ht : l.redirects.target? standardError = target at hstream
  generalize w.openStream sh.session.currentDir target = r at hstream
  cases hstream with
  | own =>
    refine .ready (not_blocked ho fun t ht' => ?_)
    rw [ht] at ht'
    cases ht'
  | failed he =>
    rw [hs.cwd] at he
    have hblocked := Blocked.errors ho ht (hd.symm.openFile_error he)
    refine .stopped ⟨hblocked, hs.followed (World.remarks_closeOutlet out w), ?_⟩
    rw [World.closeOutlet_disk]
    exact hd
  | opened hopen =>
    refine .ready (not_blocked ho fun t ht' cause he => ?_)
    rw [ht] at ht'
    cases ht'
    rw [hs.cwd, hd.openFile_error he] at hopen
    cases hopen

theorem tried_targets (hl : CommandLine.parse? line = some l) (sh : Shell) :
    Tried sh l (sh.targets l) := by
  have hpre := mutters_preamble l sh.world
  rw [targets, World.openTargets_eq _ _ (CommandLine.ascending_of_parse? hl)]
  generalize (sh.world.note (.parsed l)).ignoreAll (l.redirects.below standardOutput) = w at hpre
  have hstream := World.streamed_openStream sh.session.currentDir
    (l.redirects.target? standardOutput) w
  generalize ht : l.redirects.target? standardOutput = target at hstream
  generalize w.openStream sh.session.currentDir target = r at hstream
  cases hstream with
  | failed he =>
    rw [hpre.cwd] at he
    have hblocked := Blocked.output ht (hpre.disk.symm.openFile_error he)
    exact .stopped ⟨hblocked, hpre.toRemarks, hpre.disk⟩
  | own => exact tried_errors .own (.own ht) hpre.toRemarks hpre.disk
  | opened ho =>
    rw [hpre.cwd] at ho
    obtain ⟨d, hopened, hd⟩ := hpre.disk.symm.openFile_ok ho
    exact tried_errors _ (.opened ht hopened)
      (hpre.toRemarks.followed (World.remarks_opened w _ _)) hd.symm

theorem opens_iff (hl : CommandLine.parse? line = some l) (sh : Shell) :
    sh.Opens l ↔ ∀ t cause d, ¬ Blocked sh l t cause d := by
  have htried := tried_targets hl sh
  unfold Opens
  generalize sh.targets l = r at htried
  cases htried with
  | stopped h =>
    refine ⟨?_, fun hno => absurd h.blocked (hno _ _ _)⟩
    rintro ⟨o, ho⟩
    cases ho
  | ready h => exact ⟨fun _ => h, fun _ => ⟨_, rfl⟩⟩

theorem stopped_targets (hl : CommandLine.parse? line = some l) (hb : Blocked sh l t cause d) :
    ∃ w, sh.targets l = (w, .error (.redirection l.opener t cause)) ∧ Stopped sh l t cause d w := by
  have htried := tried_targets hl sh
  generalize sh.targets l = r at htried
  cases htried with
  | stopped h =>
    obtain ⟨rfl, rfl, rfl⟩ := hb.unique h.blocked
    exact ⟨_, rfl, h⟩
  | ready h => exact absurd hb (h _ _ _)

/-- All that has happened when a line ends that was not run for want of a target. -/
structure Refused (sh : Shell) (l : CommandLine) (t : Text) (cause : Fault) (d : Disk)
    (r : Shell × Int) : Prop where
  all : r = ({ sh with world := (sh.targets l).1 }.report .own (.redirection l.opener t cause), 1)
  session : r.1.session = sh.session
  untouched : sh.world.Untouched r.1.world
  table : r.1.world.descriptors.table = sh.world.descriptors.table
  disk : d.AgreesBut sh.world.diaries r.1.world.disk
  noted : sh.world.Hears → r.1.world.noted =
    .failed (l.complaint t cause) :: l.preamble.reverse ++ sh.world.noted
  heard : sh.world.Hears → r.1.world.heard = sh.world.heard ++
    l.preamble.flatMap sh.world.recorded ++ sh.world.recorded (.failed (l.complaint t cause)) ++
    Utf8.encode (l.complaint t cause ++ "\n")

theorem refused_execute (run : Runner) (hl : CommandLine.parse? line = some l)
    (hb : Blocked sh l t cause d) : Refused sh l t cause d (sh.execute run line) := by
  have htable := (released_execute run line sh).table
  obtain ⟨w, htargets, hstopped⟩ := stopped_targets hl hb
  have hall : sh.execute run line =
      ({ sh with world := w }.report .own (.redirection l.opener t cause), 1) := by
    rw [execute_eq hl, htargets]
    rfl
  have hw : (sh.execute run line).1.world = w.report .own (l.complaint t cause) := by
    rw [hall]
    rfl
  have hpre := hstopped.remarks
  obtain ⟨hdisk, huntouched, hreport⟩ := World.remarks_report w (l.complaint t cause)
  have heard : sh.world.Hears → World.Remarks (l.preamble ++ [.failed (l.complaint t cause)])
      (l.preamble.flatMap sh.world.recorded ++ (sh.world.recorded (.failed (l.complaint t cause)) ++
        Utf8.encode (l.complaint t cause ++ "\n"))) sh.world (sh.execute run line).1.world := by
    intro hh
    have hrest := hreport (hpre.said hh).1
    rw [hpre.recorded] at hrest
    rw [hw]
    exact hpre.trans hrest
  refine ⟨?_, ?_, ?_, htable, ?_, fun hh => ?_, fun hh => ?_⟩
  · rw [htargets]
    exact hall
  · rw [hall]
    rfl
  · rw [hw]
    exact hpre.toUntouched.trans huntouched
  · rw [hw]
    rw [hpre.diaries] at hdisk
    exact hstopped.disk.trans hdisk
  · obtain ⟨-, hnoted, -⟩ := (heard hh).said hh
    rw [hnoted, List.reverse_append]
    rfl
  · obtain ⟨-, -, hheard⟩ := (heard hh).said hh
    rw [hheard, List.append_assoc, List.append_assoc]

/-- A line is run unless the target of its output or that of its errors cannot be opened. Then it is
only told that the first of them cannot, and the target of the output is all that is touched on the
disk, besides the files that errors and records go to. -/
theorem line_refused (run : Runner) (line : Text) (sh : Shell) (l : CommandLine)
    (hl : CommandLine.parse? line = some l) :
    (sh.Opens l ↔ ∀ t cause d, ¬ Blocked sh l t cause d) ∧
    ∀ t cause d, Blocked sh l t cause d →
      Refused sh l t cause d (sh.execute run line) ∧
      (∀ run', sh.execute run' line = sh.execute run line) ∧
      (d = sh.world.disk ∨
        l.redirects.target? standardError = some t ∧
          ∃ out, l.redirects.target? standardOutput = some out ∧
            sh.world.disk.Readied sh.world.cwd (Path.join sh.session.currentDir out) d) := by
  refine ⟨opens_iff hl sh, fun t cause d hb => ⟨refused_execute run hl hb, fun run' => ?_, hb.disk⟩⟩
  rw [(refused_execute run hl hb).all, (refused_execute run' hl hb).all]

def blockedLine : Text := "exit > a 2> nowhere/b"

def blockedParse : CommandLine := ⟨some ⟨"exit", []⟩, [(1, "a"), (2, "nowhere/b")]⟩

/-- The disk with the target of the output on it. -/
def blockedDisk : Disk :=
  (sampleShell.world.disk.put ["a"] 0o644 .file).refill sampleShell.world.disk.next []

theorem blocked_sample :
    Blocked sampleShell blockedParse "nowhere/b" (.system .noEntry) blockedDisk := by
  have ho : sampleShell.world.disk.openFile sampleShell.world.cwd .truncate
      (Path.join sampleShell.session.currentDir "a") =
        .ok (blockedDisk, ⟨.content 11, 0, false, .writing⟩) := by decide +kernel
  exact .errors (.opened rfl ho) rfl (by decide +kernel)

theorem line_refused_exit :
    CommandLine.parse? blockedLine = some blockedParse ∧ sampleShell.world.Hears ∧
      Blocked sampleShell blockedParse "nowhere/b" (.system .noEntry) blockedDisk ∧
      (sampleShell.execute idleRunner blockedLine).2 = 1 ∧
      (sampleShell.execute idleRunner blockedLine).1.session.exiting = false ∧
      (sampleShell.execute idleRunner blockedLine).1.world.heard =
        Utf8.encode "exit: nowhere/b: No such file or directory\n".toList := by
  have hl : CommandLine.parse? blockedLine = some blockedParse := by decide +kernel
  have hh : sampleShell.world.Hears := ⟨{}, by decide +kernel, rfl, rfl⟩
  obtain ⟨-, hrefused⟩ := line_refused idleRunner blockedLine sampleShell blockedParse hl
  obtain ⟨hr, -, -⟩ := hrefused _ _ _ blocked_sample
  refine ⟨hl, hh, blocked_sample, ?_, ?_, ?_⟩
  · rw [hr.all]
  · rw [hr.session]
    rfl
  · rw [hr.heard hh]
    decide +kernel

end Shell
end CommandShell
