import CommandShell.Proofs.Disk.Entries
import CommandShell.Proofs.Disk.Leads
import CommandShell.Proofs.Session.Stages
import CommandShell.Proofs.World.Output
/-! The shell's own work, whatever fails in it: writing, opening, closing and taking notes. It moves
the process nowhere, loses no entry of the disk and takes back nothing that was printed. -/
namespace CommandShell

namespace Surroundings
variable (s : Surroundings) (f : OpenFile) (bs : Bytes)

theorem writeFile_spec : s.disk.Extends (s.writeFile f bs).1.disk ∧
    (s.writeFile f bs).1.output = s.output ∧ (s.writeFile f bs).1.errors = s.errors :=
  ⟨Disk.extends_write _ f bs, rfl, rfl⟩

theorem extends_writeOutput : s.disk.Extends (s.writeOutput bs).1.disk := by
  unfold writeOutput
  split
  · exact .refl _
  · exact Disk.extends_write _ _ bs

theorem writeErrors_spec :
    s.disk.Extends (s.writeErrors bs).1.disk ∧ (s.writeErrors bs).1.output = s.output := by
  unfold writeErrors
  split
  · exact ⟨.refl _, rfl⟩
  · exact ⟨Disk.extends_write _ _ bs, rfl⟩

theorem flushOutput_disk : s.flushOutput.1.disk = s.disk := by
  unfold flushOutput
  split <;> rfl

theorem flushErrors_spec : s.flushErrors.1.disk = s.disk ∧ s.flushErrors.1.output = s.output := by
  unfold flushErrors
  split <;> exact ⟨rfl, rfl⟩

end Surroundings

namespace World
variable {w w' w'' : World} {bs : Bytes}

/-- The process stays where it is, as alive as it was, and no entry of the disk is lost. -/
structure Stays (w w' : World) : Prop where
  cwd : w'.cwd = w.cwd
  killedBy : w'.killedBy = w.killedBy
  entries : w.disk.Extends w'.disk

/-- Besides, what was printed stays printed, and where all was taken so far all still is. -/
structure Steady (w w' : World) : Prop extends Stays w w' where
  output : w.Accepting → w'.Accepting ∧ w.printed <+: w'.printed

/-- The stream of the output and what is held back for it stay as they are. -/
structure Silent (w w' : World) : Prop extends Stays w w' where
  stream : w'.surroundings.output = w.surroundings.output
  pending : w'.pending = w.pending

theorem Stays.refl (w : World) : w.Stays w := ⟨rfl, rfl, .refl _⟩

theorem Stays.trans (h : w.Stays w') (h' : w'.Stays w'') : w.Stays w'' :=
  ⟨h'.cwd.trans h.cwd, h'.killedBy.trans h.killedBy, h.entries.trans h'.entries⟩

theorem Steady.refl (w : World) : w.Steady w := ⟨.refl w, fun h => ⟨h, List.prefix_refl _⟩⟩

theorem Steady.trans (h : w.Steady w') (h' : w'.Steady w'') : w.Steady w'' := by
  refine ⟨h.toStays.trans h'.toStays, fun ha => ?_⟩
  obtain ⟨ha', hp⟩ := h.output ha
  obtain ⟨ha'', hp'⟩ := h'.output ha'
  exact ⟨ha'', hp.trans hp'⟩

theorem Silent.refl (w : World) : w.Silent w := ⟨.refl w, rfl, rfl⟩

theorem Silent.trans (h : w.Silent w') (h' : w'.Silent w'') : w.Silent w'' :=
  ⟨h.toStays.trans h'.toStays, h'.stream.trans h.stream, h'.pending.trans h.pending⟩

theorem Silent.accepting (h : w.Silent w') (ha : w.Accepting) : w'.Accepting := by
  simpa only [Accepting, Surroundings.Accepting, h.stream] using ha

theorem Silent.printed (h : w.Silent w') : w'.printed = w.printed := by
  simp only [World.printed, Surroundings.arrived, h.stream, h.pending]

theorem Silent.steady (h : w.Silent w') : w.Steady w' := by
  refine ⟨h.toStays, fun ha => ⟨h.accepting ha, [], ?_⟩⟩
  rw [h.printed, List.append_nil]

theorem Stays.steady_of_prints {r : World × Option Fault} (bs : Bytes) (h : w.Stays r.1)
    (hp : w.Accepting → w.Prints bs r) : w.Steady r.1 := by
  refine ⟨h, fun ha => ?_⟩
  obtain ⟨w', hr, ha', hp'⟩ := hp ha
  rw [hr, hp']
  exact ⟨ha', List.prefix_append _ _⟩

theorem stays_release (w : World) : w.Stays w.release.1 := by
  have h := Surroundings.extends_writeOutput w.surroundings w.pending
  unfold release
  split
  · rename_i s he
    rw [he] at h
    exact ⟨rfl, rfl, h⟩
  · rename_i s short he
    rw [he] at h
    exact ⟨rfl, rfl, h⟩

theorem stays_passOn (w : World) (bs : Bytes) : w.Stays (w.passOn bs).1 :=
  ⟨rfl, rfl, Surroundings.extends_writeOutput w.surroundings bs⟩

theorem stays_writeOwn (w : World) (bs : Bytes) : w.Stays (w.writeOwn bs).1 :=
  writeOwn_stages w.Stays (fun w' h => h.trans (stays_release w'))
    (fun bs w' h => h.trans (stays_passOn w' bs)) (fun _ _ h => h.trans ⟨rfl, rfl, .refl _⟩) bs
    (.refl w)

theorem steady_writeOwn (w : World) (bs : Bytes) : w.Steady (w.writeOwn bs).1 :=
  (stays_writeOwn w bs).steady_of_prints bs fun h => writeOwn_prints h bs

theorem steady_flush (w : World) : w.Steady w.flush.1 := by
  refine Stays.steady_of_prints [] ?_ fun h => ?_
  · have h := stays_release w
    unfold flush
    split
    · rename_i w' cause he
      rw [he] at h
      exact h
    · rename_i w' he
      rw [he] at h
      refine h.trans ⟨rfl, rfl, ?_⟩
      intro l e hl
      rw [disk, Surroundings.flushOutput_disk]
      exact hl
  · obtain ⟨w', he, ha, hp, -⟩ := flush_prints h
    exact ⟨w', he, ha, by simp [hp]⟩

theorem silent_writeErrors (w : World) (bs : Bytes) : w.Silent (w.writeErrors bs).1 := by
  obtain ⟨hd, ho⟩ := Surroundings.writeErrors_spec w.surroundings bs
  exact ⟨⟨rfl, rfl, hd⟩, ho, rfl⟩

theorem silent_writeHandle (w : World) (h : Handle) (bs : Bytes) :
    w.Silent (w.writeHandle h bs).1 := by
  unfold writeHandle
  split
  · exact .refl w
  · rename_i f _
    obtain ⟨hd, ho, -⟩ := Surroundings.writeFile_spec w.surroundings f bs
    exact ⟨⟨rfl, rfl, hd⟩, ho, rfl⟩

theorem silent_print_handle (w : World) (h : Handle) (ts : List Text) :
    w.Silent (print (.handle h) ts w).1 := by
  have hwrite : ∀ bs w', w.Silent w' → w.Silent (w'.write (.handle h) bs).1 :=
    fun bs w' hw => hw.trans (silent_writeHandle w' h bs)
  exact print_stages w.Silent hwrite ts (.refl w)

theorem steady_write (w : World) (out : Outlet) (bs : Bytes) : w.Steady (w.write out bs).1 := by
  cases out with
  | own => exact steady_writeOwn w bs
  | handle h => exact (silent_writeHandle w h bs).steady

theorem steady_print (w : World) (out : Outlet) (ts : List Text) : w.Steady (print out ts w).1 :=
  print_stages w.Steady (fun bs w' h => h.trans (steady_write w' out bs)) ts (.refl w)

theorem steady_flushOutlet (w : World) (out : Outlet) : w.Steady (w.flushOutlet out).1 := by
  cases out with
  | own => exact steady_flush w
  | handle h => exact .refl w

theorem silent_writeLog (w : World) (l : Log) (bs : Bytes) : w.Silent (w.writeLog l bs) := by
  unfold writeLog
  split
  · exact silent_writeErrors w bs
  · rename_i f _
    obtain ⟨hd, ho, -⟩ := Surroundings.writeFile_spec w.surroundings f bs
    exact ⟨⟨rfl, rfl, hd⟩, ho, rfl⟩

theorem silent_note (w : World) (r : Record) : w.Silent (w.note r) := by
  have h : w.Silent { w with noted := r :: w.noted } := ⟨⟨rfl, rfl, .refl _⟩, rfl, rfl⟩
  unfold note
  dsimp only
  split
  · exact h
  · split
    · exact h.trans (silent_writeLog _ _ _)
    · exact h

theorem silent_complain (w : World) (out : Outlet) (message : Text) :
    w.Silent (w.complain out message).1 := by
  unfold complain
  split
  · exact silent_writeHandle w _ _
  · have h := silent_writeErrors w (Utf8.encode (message ++ "\n"))
    split
    · rename_i w' cause he
      rw [he] at h
      exact h
    · rename_i w' he
      rw [he] at h
      obtain ⟨hd, ho⟩ := Surroundings.flushErrors_spec w'.surroundings
      refine h.trans ⟨⟨rfl, rfl, ?_⟩, ho, rfl⟩
      intro l e hl
      rw [disk, hd]
      exact hl

theorem silent_report (w : World) (out : Outlet) (message : Text) :
    w.Silent (w.report out message) :=
  report_stages w.Silent message (fun r w' h => h.trans (silent_note w' r))
    (fun w' h => h.trans (silent_complain w' out message)) (.refl w)

theorem silent_openFile (w : World) (how : Opening) (path : Text) :
    w.Silent (w.openFile how path).1 := by
  unfold openFile
  split
  · exact .refl w
  · rename_i d f he
    exact ⟨⟨rfl, rfl, Disk.extends_openFile he⟩, rfl, rfl⟩

theorem silent_closeOutlet (w : World) (out : Outlet) : w.Silent (w.closeOutlet out) := by
  cases out with
  | own => exact .refl w
  | handle h => exact ⟨⟨rfl, rfl, .refl _⟩, rfl, rfl⟩

theorem silent_close (w : World) (o : Outlets) : w.Silent (o.close w) :=
  (silent_closeOutlet w o.output).trans (silent_closeOutlet _ o.errors)

theorem silent_openTargets (command currentDir : Text) (rs : Redirects) (o : Outlets) (w : World) :
    w.Silent (openTargets command currentDir rs o w).1 := by
  induction rs generalizing o w with
  | nil => exact .refl w
  | cons r rs ih =>
    obtain ⟨fd, target⟩ := r
    unfold openTargets
    split
    · have h := silent_openFile w .truncate (Path.join currentDir target)
      split
      · rename_i w' cause he
        rw [he] at h
        exact h.trans (silent_close w' o)
      · rename_i w' handle he
        rw [he] at h
        exact h.trans (ih _ w')
    · exact (silent_note w _).trans (ih o _)

end World
end CommandShell
