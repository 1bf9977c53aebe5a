import CommandShell.Proofs.Session.Targets
import CommandShell.Session.Execute
import CommandShell.Proofs.Session.Stages
/-! Work that tells the user nothing and starts no program: writing the output of a command, opening
and closing files, taking notes. The shell speaks of a failure in one place only. -/
namespace CommandShell

variable {w w' w'' : World}

/-- The message that a record tells the user of. -/
def Record.failed? : Record → Option Text
  | .failed message => some message
  | _ => none

/-- A request to start a program: its path, the name it is started under and its arguments. -/
structure Request where
  program : Text
  name : Text
  arguments : List Text
  deriving DecidableEq

/-- The request that a record tells of. -/
def Record.launching? : Record → Option Request
  | .launching program name arguments => some ⟨program, name, arguments⟩
  | _ => none

namespace World

/-- The messages so far, latest first. -/
def messages (w : World) : List Text := w.noted.filterMap Record.failed?

/-- The requests so far, latest first. -/
def launches (w : World) : List Request := w.noted.filterMap Record.launching?

/-- No record goes to the errors: there is no log, or it has a file. -/
def Discreet (w : World) : Prop := ∀ l, w.log = some l → l.file ≠ none

/-- No message, no request, and nothing written to the errors. -/
structure Quiet (w w' : World) : Prop where
  messages : w'.messages = w.messages
  launches : w'.launches = w.launches
  errors : w.Discreet → w'.Discreet ∧ w'.surroundings.errors = w.surroundings.errors

theorem Quiet.trans (h : w.Quiet w') (h' : w'.Quiet w'') : w.Quiet w'' := by
  refine ⟨h'.messages.trans h.messages, h'.launches.trans h.launches, fun hd => ?_⟩
  obtain ⟨hd', he⟩ := h.errors hd
  obtain ⟨hd'', he'⟩ := h'.errors hd'
  exact ⟨hd'', he'.trans he⟩

theorem quiet_of_eq (hn : w'.noted = w.noted) (hl : w'.log = w.log)
    (he : w'.surroundings.errors = w.surroundings.errors) : w.Quiet w' := by
  refine ⟨?_, ?_, fun h => ⟨?_, he⟩⟩
  · rw [World.messages, hn, World.messages]
  · rw [World.launches, hn, World.launches]
  · rw [Discreet, hl]
    exact h

/-- Work without a word to the user: the errors, the log and the notes stay as they are, but for
records that are no message and no request. -/
inductive Hushed : World → World → Prop
  | aside {w w' : World} (hn : w'.noted = w.noted) (hl : w'.log = w.log)
      (he : w'.surroundings.errors = w.surroundings.errors) : Hushed w w'
  | note (w : World) {r : Record} (hf : r.failed? = none) (hl : r.launching? = none) :
      Hushed w (w.note r)
  | trans {w w' w'' : World} (h : Hushed w w') (h' : Hushed w' w'') : Hushed w w''

theorem Hushed.refl (w : World) : w.Hushed w := .aside rfl rfl rfl

end World

theorem Surroundings.writeOutput_errors (s : Surroundings) (bs : Bytes) :
    (s.writeOutput bs).1.errors = s.errors := by
  unfold writeOutput
  split <;> rfl

theorem Surroundings.flushOutput_errors (s : Surroundings) : s.flushOutput.1.errors = s.errors := by
  unfold flushOutput
  split <;> rfl

namespace World

theorem hushed_release (w : World) : w.Hushed w.release.1 := by
  have he := w.surroundings.writeOutput_errors w.pending
  unfold release
  split
  · rename_i s hs
    rw [hs] at he
    exact .aside rfl rfl he
  · rename_i s short hs
    rw [hs] at he
    exact .aside rfl rfl he

theorem hushed_writeOwn (w : World) (bs : Bytes) : w.Hushed (w.writeOwn bs).1 :=
  writeOwn_stages w.Hushed (fun w' h => h.trans (hushed_release w'))
    (fun bs w' h => h.trans (.aside rfl rfl (w'.surroundings.writeOutput_errors bs)))
    (fun _ _ h => h.trans (.aside rfl rfl rfl)) bs (.refl w)

theorem hushed_writeHandle (w : World) (h : Handle) (bs : Bytes) :
    w.Hushed (w.writeHandle h bs).1 := by
  unfold writeHandle
  split
  · exact .refl w
  · exact .aside rfl rfl rfl

theorem hushed_write (w : World) (out : Outlet) (bs : Bytes) : w.Hushed (w.write out bs).1 := by
  cases out with
  | own => exact hushed_writeOwn w bs
  | handle h => exact hushed_writeHandle w h bs

theorem hushed_print (w : World) (out : Outlet) (ts : List Text) : w.Hushed (print out ts w).1 :=
  print_stages w.Hushed (fun bs w' h => h.trans (hushed_write w' out bs)) ts (.refl w)

theorem hushed_flush (w : World) : w.Hushed w.flush.1 :=
  next_stage w.Hushed
    (fun w' h => h.trans (.aside rfl rfl w'.surroundings.flushOutput_errors))
    (hushed_release w)

theorem hushed_flushOutlet (w : World) (out : Outlet) : w.Hushed (w.flushOutlet out).1 := by
  cases out with
  | own => exact hushed_flush w
  | handle h => exact .refl w

theorem hushed_openFile (w : World) (how : Opening) (path : Text) :
    w.Hushed (w.openFile how path).1 := by
  unfold openFile
  split
  · exact .refl w
  · exact .aside rfl rfl rfl

theorem hushed_closeOutlet (w : World) (out : Outlet) : w.Hushed (w.closeOutlet out) := by
  cases out with
  | own => exact .refl w
  | handle h => exact .aside rfl rfl rfl

theorem hushed_close (w : World) (o : Outlets) : w.Hushed (o.close w) :=
  (hushed_closeOutlet w o.output).trans (hushed_closeOutlet _ o.errors)

theorem noted_writeLog (w : World) (l : Log) (bs : Bytes) :
    (w.writeLog l bs).noted = w.noted := by
  unfold writeLog
  split <;> rfl

/-- A record is noted whatever the log takes. -/
theorem noted_note (w : World) (r : Record) : (w.note r).noted = r :: w.noted := by
  unfold note
  dsimp only
  split
  · rfl
  · split
    · exact noted_writeLog _ _ _
    · rfl

/-- Without a log a record is noted, and no more. -/
theorem note_unlogged (h : w.log = none) (r : Record) :
    w.note r = { w with noted := r :: w.noted } := by
  unfold note
  dsimp only
  rw [h]

theorem Hushed.log_none (h : w.Hushed w') (hl : w.log = none) : w'.log = none := by
  induction h with
  | aside _ he _ => exact he.trans hl
  | note w _ _ =>
    rw [note_unlogged hl]
    exact hl
  | trans _ _ ih ih' => exact ih' (ih hl)

theorem note_discreet (h : w.Discreet) (r : Record) :
    (w.note r).Discreet ∧ (w.note r).surroundings.errors = w.surroundings.errors := by
  unfold note
  dsimp only
  split
  · exact ⟨h, rfl⟩
  · rename_i l hl
    split
    · unfold writeLog
      split
      · rename_i hf
        exact absurd hf (h l hl)
      · refine ⟨fun l' hl' => ?_, rfl⟩
        cases hl'
        exact Option.some_ne_none _
    · exact ⟨h, rfl⟩

theorem messages_note (w : World) (r : Record) :
    (w.note r).messages = r.failed?.toList ++ w.messages := by
  rw [messages, noted_note, List.filterMap_cons, messages]
  cases r.failed? with
  | none => rfl
  | some message => rfl

theorem launches_note (w : World) (r : Record) :
    (w.note r).launches = r.launching?.toList ++ w.launches := by
  rw [launches, noted_note, List.filterMap_cons, launches]
  cases r.launching? with
  | none => rfl
  | some request => rfl

theorem quiet_note (w : World) {r : Record} (hf : r.failed? = none) (hl : r.launching? = none) :
    w.Quiet (w.note r) := by
  refine ⟨?_, ?_, fun h => note_discreet h r⟩
  · rw [messages_note, hf]
    rfl
  · rw [launches_note, hl]
    rfl

theorem Hushed.quiet (h : w.Hushed w') : w.Quiet w' := by
  induction h with
  | aside hn hl he => exact quiet_of_eq hn hl he
  | note w hf hl => exact quiet_note w hf hl
  | trans _ _ ih ih' => exact ih.trans ih'

theorem hushed_openTargets (command currentDir : Text) (rs : Redirects) (o : Outlets) (w : World) :
    w.Hushed (openTargets command currentDir rs o w).1 := by
  induction rs generalizing o w with
  | nil => exact .refl w
  | cons r rs ih =>
    obtain ⟨fd, target⟩ := r
    unfold openTargets
    split
    · have h := hushed_openFile w .truncate (Path.join currentDir target)
      split
      · rename_i w' cause he
        rw [he] at h
        exact h.trans (hushed_close w' o)
      · rename_i w' handle he
        rw [he] at h
        exact h.trans (ih _ w')
    · exact (Hushed.note w rfl rfl).trans (ih o _)

theorem noted_complain (w : World) (out : Outlet) (message : Text) :
    (w.complain out message).1.noted = w.noted := by
  cases out with
  | handle h =>
    unfold complain writeHandle
    dsimp only
    split <;> rfl
  | own => exact next_stage (·.noted = w.noted) (fun _ h => h) rfl

/-- A report is one message and no more. -/
theorem messages_report (w : World) (out : Outlet) (message : Text) :
    (w.report out message).messages = message :: w.messages := by
  have hc : ((w.note (.failed message)).complain out message).1.messages = message :: w.messages := by
    rw [messages, noted_complain, ← messages, messages_note]
    rfl
  unfold report
  split
  · rename_i he
    rw [he] at hc
    exact hc
  · rename_i he
    rw [he] at hc
    rw [messages_note]
    exact hc

theorem launches_report (w : World) (out : Outlet) (message : Text) :
    (w.report out message).launches = w.launches := by
  have hc : ((w.note (.failed message)).complain out message).1.launches = w.launches := by
    rw [launches, noted_complain, ← launches, launches_note]
    rfl
  unfold report
  split
  · rename_i he
    rw [he] at hc
    exact hc
  · rename_i he
    rw [he] at hc
    rw [launches_note]
    exact hc

end World
end CommandShell
