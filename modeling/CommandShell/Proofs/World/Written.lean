import CommandShell.Proofs.World.Handles
import CommandShell.Proofs.World.Quiet
import CommandShell.Proofs.World.Remarks
import CommandShell.Proofs.World.Steady
/-! Where output ends up. What is written changes the content of the file behind its outlet, if there
is one, and nothing else of the disk. -/
namespace CommandShell

variable {w w' w'' : World} {h : Handle} {f : OpenFile} {files files' : List Nat}

namespace Descriptors

variable {d : Descriptors} {g : OpenFile}

theorem get?_update_self (hf : d.get? h = some f) (f' : OpenFile) :
    (d.update h f').get? h = some f' := by
  unfold get? at hf ⊢
  unfold update
  dsimp only
  generalize d.table = table at hf
  induction table with
  | nil => cases hf
  | cons e table ih =>
    obtain ⟨k, g⟩ := e
    by_cases hk : k = h
    · simp [hk]
    · have hne : (h == k) = false := beq_false_of_ne (Ne.symm hk)
      rw [List.lookup_cons, hne] at hf
      rw [List.map_cons, if_neg hk, List.lookup_cons, hne]
      exact ih hf

theorem get?_update_of_ne {h' : Handle} (hne : h' ≠ h) (f' : OpenFile) :
    (d.update h f').get? h' = d.get? h' := by
  unfold get? update
  dsimp only
  generalize d.table = table
  induction table with
  | nil => rfl
  | cons e table ih =>
    obtain ⟨k, g⟩ := e
    by_cases hk : k = h
    · have hfalse : (h' == h) = false := beq_false_of_ne hne
      rw [List.map_cons, if_pos hk, List.lookup_cons, List.lookup_cons, hk, hfalse, ih]
    · rw [List.map_cons, if_neg hk, List.lookup_cons, List.lookup_cons, ih]

theorem get?_insert_self (d : Descriptors) (f : OpenFile) :
    (d.insert f).1.get? (d.insert f).2 = some f := by
  simp [insert, get?]

/-- A new handle is none of those in use. -/
theorem get?_insert_of_some (hg : d.get? h = some g) (f : OpenFile) :
    (d.insert f).1.get? h = some g ∧ h ≠ (d.insert f).2 := by
  have hmem : (h, g) ∈ d.table := by
    obtain ⟨before, after, hsplit, -⟩ := List.lookup_eq_some_iff.1 hg
    rw [hsplit]
    exact List.mem_append_right _ (List.mem_cons_self ..)
  have hne : h ≠ d.fresh := Nat.ne_of_lt (lt_fresh hmem)
  refine ⟨?_, hne⟩
  rw [insert, get?, List.lookup_cons, beq_false_of_ne hne]
  exact hg

end Descriptors

namespace World

/-- The file that the shell's own output goes to. -/
def outputFiles (w : World) : List Nat := (w.surroundings.output.file?.bind (·.written?)).toList

/-- The file that the shell's own errors go to. -/
def errorsFiles (w : World) : List Nat := (w.surroundings.errors.file?.bind (·.written?)).toList

/-- The file that records go to: without a file of their own, that of the errors. -/
def recordFiles (w : World) : List Nat :=
  match w.log with
  | none => []
  | some l =>
    match l.file with
    | none => w.errorsFiles
    | some f => f.written?.toList

/-- The files that the shell writes to by itself in a line with these files for its streams. -/
def ownFiles (w : World) (out err : Option Nat) : List Nat :=
  w.recordFiles ++ (if out = none then w.outputFiles else []) ++
    if err = none then w.errorsFiles else []

/-- What the shell writes by itself goes to the same files as before. -/
structure SameFiles (w w' : World) : Prop where
  output : w'.outputFiles = w.outputFiles
  errors : w'.errorsFiles = w.errorsFiles
  records : w'.recordFiles = w.recordFiles

theorem SameFiles.refl (w : World) : SameFiles w w := ⟨rfl, rfl, rfl⟩

theorem SameFiles.trans (h : SameFiles w w') (h' : SameFiles w' w'') : SameFiles w w'' :=
  ⟨h'.output.trans h.output, h'.errors.trans h.errors, h'.records.trans h.records⟩

/-- Records only move if the log or the errors do. -/
theorem SameFiles.of_log (ho : w'.outputFiles = w.outputFiles) (he : w'.errorsFiles = w.errorsFiles)
    (hl : w'.log = w.log) : SameFiles w w' := by
  refine ⟨ho, he, ?_⟩
  rw [recordFiles, hl, he, recordFiles]

/-- Nothing has changed on the disk but what is in these files, and no file was opened for a
command, written or closed. -/
structure Aside (files : List Nat) (w w' : World) : Prop extends SameFiles w w' where
  disk : w.disk.AgreesBut files w'.disk
  descriptors : w'.descriptors = w.descriptors

theorem Aside.refl (files : List Nat) (w : World) : Aside files w w := ⟨.refl w, .refl _ _, rfl⟩

theorem Aside.trans (h : Aside files w w') (h' : Aside files w' w'') : Aside files w w'' :=
  ⟨h.toSameFiles.trans h'.toSameFiles, h.disk.trans h'.disk, h'.descriptors.trans h.descriptors⟩

theorem Aside.mono (h : Aside files w w') (hs : files ⊆ files') : Aside files' w w' :=
  ⟨h.toSameFiles, h.disk.mono hs, h.descriptors⟩

theorem aside_of_eq (hs : w'.surroundings = w.surroundings) (hl : w'.log = w.log)
    (hd : w'.descriptors = w.descriptors) : Aside files w w' := by
  refine ⟨.of_log ?_ ?_ hl, ?_, hd⟩
  · rw [outputFiles, hs, outputFiles]
  · rw [errorsFiles, hs, errorsFiles]
  · rw [World.disk, World.disk, hs]
    exact .refl _ _

theorem aside_writeErrors (w : World) (bs : Bytes) :
    Aside w.errorsFiles w (w.writeErrors bs).1 := by
  refine ⟨.of_log ?_ ?_ rfl, ?_, rfl⟩
  · rw [outputFiles, (silent_writeErrors w bs).stream, outputFiles]
  · cases he : w.surroundings.errors with
    | stream t => simp [errorsFiles, writeErrors, Surroundings.writeErrors, he, Sink.file?]
    | file f =>
      simp [errorsFiles, writeErrors, Surroundings.writeErrors, Surroundings.writeFile, he,
        Sink.file?, Disk.written?_write]
  · cases he : w.surroundings.errors with
    | stream t =>
      rw [writeErrors, Surroundings.writeErrors, he]
      exact .refl _ _
    | file f =>
      rw [writeErrors, Surroundings.writeErrors, he]
      refine Disk.agreesBut_write w.disk bs fun n hn => ?_
      simp [errorsFiles, he, Sink.file?, hn]

theorem aside_flushErrors (w : World) :
    Aside w.errorsFiles w { w with surroundings := w.surroundings.flushErrors.1 } := by
  cases he : w.surroundings.errors with
  | file f =>
    rw [Surroundings.flushErrors, he]
    exact .refl _ w
  | stream t =>
    rw [Surroundings.flushErrors, he]
    refine ⟨.of_log rfl ?_ rfl, .refl _ _, rfl⟩
    rw [errorsFiles, errorsFiles, he]
    rfl

theorem aside_writeLog {l : Log} (hl : w.log = some l) (bs : Bytes) :
    Aside w.recordFiles w (w.writeLog l bs) := by
  cases hf : l.file with
  | none =>
    have hrecords : w.recordFiles = w.errorsFiles := by simp [recordFiles, hl, hf]
    rw [writeLog, hf, hrecords]
    exact aside_writeErrors w bs
  | some f =>
    have hrecords : w.recordFiles = f.written?.toList := by simp [recordFiles, hl, hf]
    rw [writeLog, hf, hrecords]
    refine ⟨⟨rfl, rfl, ?_⟩, Disk.agreesBut_write w.disk bs fun n hn => ?_, rfl⟩
    · rw [hrecords]
      simp [recordFiles, Surroundings.writeFile, Disk.written?_write]
    · simp [hn]

theorem aside_note (w : World) (r : Record) : Aside w.recordFiles w (w.note r) := by
  have hnoted : Aside w.recordFiles w { w with noted := r :: w.noted } := aside_of_eq rfl rfl rfl
  unfold note
  dsimp only
  split
  · exact hnoted
  · rename_i l hl
    split
    · exact hnoted.trans (aside_writeLog (w := { w with noted := r :: w.noted }) hl _)
    · exact hnoted

theorem aside_ignoreAll (rs : Redirects) (w : World) : Aside w.recordFiles w (w.ignoreAll rs) := by
  induction rs generalizing w with
  | nil => exact .refl _ w
  | cons r rs ih =>
    have hnote := aside_note w (.ignored r.1 r.2)
    have hrest := ih (w.note (.ignored r.1 r.2))
    rw [hnote.records] at hrest
    exact hnote.trans hrest

theorem aside_complain_own (w : World) (message : Text) :
    Aside w.errorsFiles w (w.complain .own message).1 := by
  refine next_stage (Aside w.errorsFiles w) (fun w' h => h.trans ?_)
    (aside_writeErrors w (Utf8.encode (message ++ "\n")))
  rw [← h.errors]
  exact aside_flushErrors w'

/-- A message to the shell's own errors is written there, and noted. -/
theorem aside_report_own (w : World) (message : Text) :
    Aside (w.errorsFiles ++ w.recordFiles) w (w.report .own message) := by
  refine report_stages (Aside (w.errorsFiles ++ w.recordFiles) w) message
    (fun r w' h => h.trans ((aside_note w' r).mono ?_))
    (fun w' h => h.trans ((aside_complain_own w' message).mono ?_)) (.refl _ w)
  · rw [h.records]
    exact List.subset_append_right _ _
  · rw [h.errors]
    exact List.subset_append_left _ _

theorem aside_writeOutput (w : World) (bs : Bytes) :
    Aside w.outputFiles w { w with surroundings := (w.surroundings.writeOutput bs).1 } := by
  refine ⟨.of_log ?_ ?_ rfl, ?_, rfl⟩
  · cases ho : w.surroundings.output with
    | stream t => simp [outputFiles, Surroundings.writeOutput, ho, Sink.file?]
    | file f =>
      simp [outputFiles, Surroundings.writeOutput, Surroundings.writeFile, ho, Sink.file?,
        Disk.written?_write]
  · rw [errorsFiles, w.surroundings.writeOutput_errors bs, errorsFiles]
  · cases ho : w.surroundings.output with
    | stream t =>
      rw [Surroundings.writeOutput, ho]
      exact .refl _ _
    | file f =>
      rw [Surroundings.writeOutput, ho]
      refine Disk.agreesBut_write w.disk bs fun n hn => ?_
      simp [outputFiles, ho, Sink.file?, hn]

theorem aside_release (w : World) : Aside w.outputFiles w w.release.1 := by
  have h := aside_writeOutput w w.pending
  unfold release
  split
  · rename_i s he
    rw [he] at h
    exact h.trans (aside_of_eq rfl rfl rfl)
  · rename_i s short he
    rw [he] at h
    exact h.trans (aside_of_eq rfl rfl rfl)

/-- Work on the output that follows on other work on it. -/
theorem Aside.onward (h : Aside w.outputFiles w w') (h' : Aside w'.outputFiles w' w'') :
    Aside w.outputFiles w w'' := by
  rw [h.output] at h'
  exact h.trans h'

theorem aside_writeOwn (w : World) (bs : Bytes) : Aside w.outputFiles w (w.writeOwn bs).1 :=
  writeOwn_stages (Aside w.outputFiles w) (fun w' h => h.onward (aside_release w'))
    (fun bs w' h => h.onward (aside_writeOutput w' bs))
    (fun _ _ h => h.trans (aside_of_eq rfl rfl rfl)) bs (.refl _ w)

theorem aside_print_own (w : World) (ts : List Text) :
    Aside w.outputFiles w (print .own ts w).1 := by
  have hwrite : ∀ bs w', Aside w.outputFiles w w' → Aside w.outputFiles w (w'.write .own bs).1 :=
    fun bs w' h => h.onward (aside_writeOwn w' bs)
  exact print_stages (Aside w.outputFiles w) hwrite ts (.refl _ w)

theorem aside_flushOutput (w : World) :
    Aside w.outputFiles w { w with surroundings := w.surroundings.flushOutput.1 } := by
  cases ho : w.surroundings.output with
  | stream t =>
    rw [Surroundings.flushOutput, ho]
    refine ⟨.of_log ?_ rfl rfl, .refl _ _, rfl⟩
    rw [outputFiles, outputFiles, ho]
    rfl
  | file f =>
    rw [Surroundings.flushOutput, ho]
    exact .refl _ w

theorem aside_flush (w : World) : Aside w.outputFiles w w.flush.1 :=
  next_stage (Aside w.outputFiles w) (fun w' h => h.onward (aside_flushOutput w')) (aside_release w)

/-- The file behind a handle. -/
def filesOf (w : World) (h : Handle) : List Nat :=
  ((w.descriptors.get? h).bind (·.written?)).toList

/-- Only what is in the file behind a handle is other than before. It is still that file, and so is
every file that is open beside it. -/
structure Fills (h : Handle) (w w' : World) : Prop extends SameFiles w w' where
  disk : w.disk.AgreesBut (w.filesOf h) w'.disk
  file : w'.filesOf h = w.filesOf h
  others : ∀ h', h' ≠ h → w'.descriptors.get? h' = w.descriptors.get? h'

theorem Fills.refl (h : Handle) (w : World) : Fills h w w :=
  ⟨.refl w, .refl _ _, rfl, fun _ _ => rfl⟩

theorem Fills.trans (hf : Fills h w w') (hf' : Fills h w' w'') : Fills h w w'' := by
  refine ⟨hf.toSameFiles.trans hf'.toSameFiles, hf.disk.trans ?_, hf'.file.trans hf.file,
    fun h' hne => (hf'.others h' hne).trans (hf.others h' hne)⟩
  rw [← hf.file]
  exact hf'.disk

theorem fills_writeHandle (w : World) (h : Handle) (bs : Bytes) :
    Fills h w (w.writeHandle h bs).1 := by
  unfold writeHandle
  split
  · exact .refl h w
  · rename_i f hf
    refine ⟨⟨rfl, rfl, rfl⟩, Disk.agreesBut_write w.disk bs fun n hn => ?_, ?_, fun h' hne => ?_⟩
    · simp [filesOf, hf, hn]
    · simp [filesOf, hf, Descriptors.get?_update_self hf, Surroundings.writeFile,
        Disk.written?_write]
    · exact Descriptors.get?_update_of_ne hne _

theorem fills_print_handle (w : World) (h : Handle) (ts : List Text) :
    Fills h w (print (.handle h) ts w).1 := by
  have hwrite : ∀ bs w', Fills h w w' → Fills h w (w'.write (.handle h) bs).1 :=
    fun bs w' hw => hw.trans (fills_writeHandle w' h bs)
  exact print_stages (Fills h w) hwrite ts (.refl h w)

/-- Printing leaves all entries of the disk as they are. -/
theorem agrees_print (w : World) (out : Outlet) (ts : List Text) :
    ∃ files, w.disk.AgreesBut files (print out ts w).1.disk := by
  cases out with
  | own => exact ⟨_, (aside_print_own w ts).disk⟩
  | handle h => exact ⟨_, (fills_print_handle w h ts).disk⟩

end World
end CommandShell
