import CommandShell.Proofs.Disk.Agrees
import CommandShell.Proofs.Session.Targets
import CommandShell.Proofs.World.Output
/-! What the shell says of its own work: to its errors, and in its notes. -/
namespace CommandShell

variable {w w' w'' : World} {records records' : List Record} {bs bs' : Bytes}

def Sink.file? : Sink → Option OpenFile
  | .stream _ => none
  | .file f => some f

namespace World

/-- The files that errors and records are written to. -/
def diaries (w : World) : List Nat :=
  (w.surroundings.errors.file?.bind (·.written?)).toList ++
    ((w.log.bind (·.file)).bind (·.written?)).toList

/-- The errors go to a stream that takes everything. -/
def Hears (w : World) : Prop := ∃ t, w.surroundings.errors = .stream t ∧ t.Complies

/-- What has arrived on the stream of the errors. -/
def heard (w : World) : Bytes :=
  match w.surroundings.errors with
  | .stream t => t.received
  | .file _ => []

/-- What of a record goes to the errors, for want of a file. -/
def recorded (w : World) (r : Record) : Bytes :=
  match w.log with
  | none => []
  | some l =>
    if l.file = none ∧ l.level.admits r.level = true then Utf8.encode (r.line l.stamp l.colored)
    else []

/-- Nothing but the errors, the disk, the open files and the notes has changed. -/
structure Untouched (w w' : World) : Prop where
  input : w'.input = w.input
  output : w'.surroundings.output = w.surroundings.output
  pending : w'.pending = w.pending
  cwd : w'.cwd = w.cwd
  environment : w'.environment = w.environment
  signals : w'.signals = w.signals
  killedBy : w'.killedBy = w.killedBy

/-- These records were noted, and so many bytes more are on the stream of the errors. -/
structure Remarks (records : List Record) (bs : Bytes) (w w' : World) : Prop
    extends Untouched w w' where
  diaries : w'.diaries = w.diaries
  recorded : w'.recorded = w.recorded
  said : w.Hears → w'.Hears ∧ w'.noted = records.reverse ++ w.noted ∧ w'.heard = w.heard ++ bs

/-- Besides, the disk is the same but for what is in the files that errors and records go to. -/
structure Mutters (records : List Record) (bs : Bytes) (w w' : World) : Prop
    extends Remarks records bs w w' where
  disk : w.disk.AgreesBut w.diaries w'.disk

theorem Untouched.refl (w : World) : w.Untouched w := ⟨rfl, rfl, rfl, rfl, rfl, rfl, rfl⟩

theorem Untouched.trans (h : w.Untouched w') (h' : w'.Untouched w'') : w.Untouched w'' :=
  ⟨h'.input.trans h.input, h'.output.trans h.output, h'.pending.trans h.pending,
    h'.cwd.trans h.cwd, h'.environment.trans h.environment, h'.signals.trans h.signals,
    h'.killedBy.trans h.killedBy⟩

theorem Remarks.trans (h : Remarks records bs w w') (h' : Remarks records' bs' w' w'') :
    Remarks (records ++ records') (bs ++ bs') w w'' := by
  refine ⟨h.toUntouched.trans h'.toUntouched, h'.diaries.trans h.diaries,
    h'.recorded.trans h.recorded, fun hw => ?_⟩
  obtain ⟨hw', hnoted, hheard⟩ := h.said hw
  obtain ⟨hw'', hnoted', hheard'⟩ := h'.said hw'
  refine ⟨hw'', ?_, ?_⟩
  · rw [hnoted', hnoted, List.reverse_append, List.append_assoc]
  · rw [hheard', hheard, List.append_assoc]

theorem Remarks.followed (h : Remarks records bs w w') (h' : Remarks [] [] w' w'') :
    Remarks records bs w w'' := by
  have hboth := h.trans h'
  rwa [List.append_nil, List.append_nil] at hboth

theorem Mutters.trans (h : Mutters records bs w w') (h' : Mutters records' bs' w' w'') :
    Mutters (records ++ records') (bs ++ bs') w w'' := by
  refine ⟨h.toRemarks.trans h'.toRemarks, h.disk.trans ?_⟩
  rw [← h.diaries]
  exact h'.disk

/-- Nothing was said. -/
theorem remarks_nothing (h : w.Untouched w') (he : w'.surroundings.errors = w.surroundings.errors)
    (hl : w'.log = w.log) (hn : w'.noted = w.noted) : Remarks [] [] w w' := by
  refine ⟨h, ?_, ?_, fun hw => ⟨?_, hn, ?_⟩⟩
  · rw [World.diaries, he, hl, World.diaries]
  · unfold World.recorded
    rw [hl]
  · rw [Hears, he]
    exact hw
  · rw [heard, he, heard, List.append_nil]

theorem Mutters.refl (w : World) : Mutters [] [] w w :=
  ⟨remarks_nothing (.refl w) rfl rfl rfl, .refl _ _⟩

theorem Hears.complies {t : Stream} (h : w.Hears) (he : w.surroundings.errors = .stream t) :
    t.Complies := by
  obtain ⟨t', ht, hc⟩ := h
  rw [he] at ht
  cases ht
  exact hc

theorem Hears.ne_file {f : OpenFile} (h : w.Hears) : w.surroundings.errors ≠ .file f := by
  obtain ⟨t, ht, -⟩ := h
  rw [ht]
  exact nofun

theorem mem_diaries_of_errors {f : OpenFile} {n : Nat} (h : w.surroundings.errors = .file f)
    (hn : f.written? = some n) : n ∈ w.diaries := by
  simp [World.diaries, h, Sink.file?, hn]

theorem mem_diaries_of_log {l : Log} {f : OpenFile} {n : Nat} (h : w.log = some l)
    (hf : l.file = some f) (hn : f.written? = some n) : n ∈ w.diaries := by
  simp [World.diaries, h, hf, hn]

theorem mutters_writeErrors (w : World) (bs : Bytes) :
    Mutters [] bs w (w.writeErrors bs).1 ∧ (w.Hears → (w.writeErrors bs).2 = none) := by
  cases he : w.surroundings.errors with
  | stream t =>
    have hw : (w.writeErrors bs).1 =
        { w with surroundings := { w.surroundings with errors := .stream (t.write bs).1 } } := by
      rw [writeErrors, Surroundings.writeErrors, he]
    have hfault : (w.writeErrors bs).2 = (t.write bs).2.map (·.cause) := by
      rw [writeErrors, Surroundings.writeErrors, he]
    rw [hw, hfault]
    refine ⟨⟨⟨⟨rfl, rfl, rfl, rfl, rfl, rfl, rfl⟩, ?_, rfl, fun hh => ?_⟩, .refl _ _⟩, fun hh => ?_⟩
    · rw [World.diaries, World.diaries, he]
      rfl
    · rw [Stream.write_complies (hh.complies he)]
      have hc : t.Complies := hh.complies he
      refine ⟨⟨_, rfl, hc⟩, rfl, ?_⟩
      rw [heard, heard, he]
    · rw [Stream.write_complies (hh.complies he)]
      rfl
  | file f =>
    have hw : (w.writeErrors bs).1 =
        { w with surroundings := { w.surroundings with
          disk := (w.disk.write f bs).1, errors := .file (w.disk.write f bs).2.1 } } := by
      rw [writeErrors, Surroundings.writeErrors, he]
      rfl
    rw [hw]
    refine ⟨⟨⟨⟨rfl, rfl, rfl, rfl, rfl, rfl, rfl⟩, ?_, rfl, fun hh => absurd he hh.ne_file⟩, ?_⟩,
      fun hh => absurd he hh.ne_file⟩
    · simp [World.diaries, he, Sink.file?, Disk.written?_write]
    · exact Disk.agreesBut_write w.disk bs fun n hn => mem_diaries_of_errors he hn

theorem mutters_flushErrors (w : World) :
    Mutters [] [] w { w with surroundings := w.surroundings.flushErrors.1 } ∧
      (w.Hears → w.surroundings.flushErrors.2 = none) := by
  cases he : w.surroundings.errors with
  | stream t =>
    have hf : w.surroundings.flushErrors =
        ({ w.surroundings with errors := .stream t.flush.1 }, t.flush.2) := by
      rw [Surroundings.flushErrors, he]
    rw [hf]
    refine ⟨⟨⟨⟨rfl, rfl, rfl, rfl, rfl, rfl, rfl⟩, ?_, rfl, fun hh => ?_⟩, .refl _ _⟩, fun hh => ?_⟩
    · rw [World.diaries, World.diaries, he]
      rfl
    · rw [Stream.flush_complies (hh.complies he)]
      refine ⟨⟨_, rfl, hh.complies he⟩, rfl, ?_⟩
      rw [heard, heard, he, List.append_nil]
    · rw [Stream.flush_complies (hh.complies he)]
  | file f =>
    have hf : w.surroundings.flushErrors = (w.surroundings, none) := by
      rw [Surroundings.flushErrors, he]
    rw [hf]
    exact ⟨.refl w, fun _ => rfl⟩

/-- A record is written to its file, if it has one, and else to the errors. -/
theorem mutters_writeLog {l : Log} (hl : w.log = some l) (bs : Bytes) :
    Mutters [] (if l.file = none then bs else []) w (w.writeLog l bs) := by
  cases hf : l.file with
  | none =>
    rw [writeLog, hf, if_pos rfl]
    exact (mutters_writeErrors w bs).1
  | some f =>
    have hw : w.writeLog l bs = { w with
        surroundings := { w.surroundings with disk := (w.disk.write f bs).1 }
        log := some { l with file := some (w.disk.write f bs).2.1 } } := by
      rw [writeLog, hf]
      rfl
    rw [hw, if_neg (by simp)]
    refine ⟨⟨⟨rfl, rfl, rfl, rfl, rfl, rfl, rfl⟩, ?_, ?_, fun hh => ⟨hh, rfl, ?_⟩⟩, ?_⟩
    · simp [World.diaries, hl, hf, Disk.written?_write]
    · funext r
      simp [World.recorded, hl, hf]
    · rw [List.append_nil, heard, heard]
    · exact Disk.agreesBut_write w.disk bs fun n hn => mem_diaries_of_log hl hf hn

theorem mutters_note (w : World) (r : Record) : Mutters [r] (w.recorded r) w (w.note r) := by
  obtain ⟨noted, hnoted⟩ : ∃ noted : World, noted = { w with noted := r :: w.noted } := ⟨_, rfl⟩
  have hr : Mutters [r] [] w noted := by
    rw [hnoted]
    exact ⟨⟨⟨rfl, rfl, rfl, rfl, rfl, rfl, rfl⟩, rfl, rfl,
      fun hh => ⟨hh, rfl, (List.append_nil _).symm⟩⟩, .refl _ _⟩
  have hlog : noted.log = w.log := by rw [hnoted]
  unfold note World.recorded
  dsimp only
  rw [← hnoted]
  cases hl : w.log with
  | none => exact hr
  | some l =>
    dsimp only
    by_cases ha : l.level.admits r.level = true
    · rw [if_pos ha]
      have hw := hr.trans
        (mutters_writeLog (hlog.trans hl) (Utf8.encode (r.line l.stamp l.colored)))
      simpa only [ha, and_true, List.append_nil, List.nil_append] using hw
    · rw [if_neg ha, if_neg fun h => ha h.2]
      exact hr

theorem mutters_complain (w : World) (message : Text) :
    Mutters [] (Utf8.encode (message ++ "\n")) w (w.complain .own message).1 ∧
      (w.Hears → (w.complain .own message).2 = none) := by
  obtain ⟨hm, hn⟩ := mutters_writeErrors w (Utf8.encode (message ++ "\n"))
  rw [complain]
  cases he : w.writeErrors (Utf8.encode (message ++ "\n")) with
  | mk w' fault =>
    rw [he] at hm hn
    cases fault with
    | some cause => exact ⟨hm, hn⟩
    | none =>
      obtain ⟨hflush, hfault⟩ := mutters_flushErrors w'
      have hboth := hm.trans hflush
      simp only [List.append_nil] at hboth
      exact ⟨hboth, fun hh => hfault (hm.said hh).1⟩

/-- A failure is noted, and then told once. -/
theorem remarks_report (w : World) (message : Text) :
    w.disk.AgreesBut w.diaries (w.report .own message).disk ∧
      w.Untouched (w.report .own message) ∧
      (w.Hears → Remarks [.failed message]
        (w.recorded (.failed message) ++ Utf8.encode (message ++ "\n")) w
        (w.report .own message)) := by
  have hnote := mutters_note w (.failed message)
  obtain ⟨hc, hfault⟩ := mutters_complain (w.note (.failed message)) message
  have hboth := hnote.trans hc
  rw [report]
  cases he : (w.note (.failed message)).complain .own message with
  | mk w' fault =>
    rw [he] at hboth hfault
    cases fault with
    | none => exact ⟨hboth.disk, hboth.toUntouched, fun _ => hboth.toRemarks⟩
    | some cause =>
      have hmore := hboth.trans (mutters_note w' (.notReported message))
      refine ⟨hmore.disk, hmore.toUntouched, fun hh => ?_⟩
      cases hfault (hnote.said hh).1

theorem mutters_ignoreAll (rs : Redirects) (w : World) :
    Mutters (rs.map fun r => .ignored r.1 r.2)
      (rs.flatMap fun r => w.recorded (.ignored r.1 r.2)) w (w.ignoreAll rs) := by
  induction rs generalizing w with
  | nil => exact .refl w
  | cons r rs ih =>
    have hnote := mutters_note w (.ignored r.1 r.2)
    have hrest := ih (w.note (.ignored r.1 r.2))
    rw [hnote.recorded] at hrest
    exact hnote.trans hrest

theorem remarks_closeOutlet (out : Outlet) (w : World) : Remarks [] [] w (w.closeOutlet out) := by
  cases out with
  | own => exact (Mutters.refl w).toRemarks
  | handle h => exact remarks_nothing ⟨rfl, rfl, rfl, rfl, rfl, rfl, rfl⟩ rfl rfl rfl

theorem remarks_opened (w : World) (disk : Disk) (descriptors : Descriptors) :
    Remarks [] [] w
      { w with surroundings := { w.surroundings with disk }, descriptors := descriptors } :=
  remarks_nothing ⟨rfl, rfl, rfl, rfl, rfl, rfl, rfl⟩ rfl rfl rfl

theorem closeOutlet_disk (out : Outlet) (w : World) : (w.closeOutlet out).disk = w.disk := by
  cases out with
  | own => rfl
  | handle h => rfl

end World
end CommandShell
