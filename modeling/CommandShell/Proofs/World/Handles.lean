import CommandShell.Proofs.Session.Stages
import CommandShell.Proofs.Session.Targets
/-! Files that are opened for a line: their handles are new, nothing but them is touched while they
are open, and once they are closed the table is what it was. -/
namespace CommandShell

variable {base d : Descriptors} {hs : List Handle} {h : Handle} {w : World} {out : Outlet}

namespace Descriptors

/-- Files were opened, in this order, beside all that were open. None of them is closed yet. -/
structure Beyond (base : Descriptors) (hs : List Handle) (d : Descriptors) : Prop where
  nodup : hs.Nodup
  unused : ∀ e ∈ base.table, e.1 ∉ hs
  table : ∃ files, d.table = files ++ base.table ∧ files.map Prod.fst = hs.reverse
  history : d.history = (hs.map .opened).reverse ++ base.history

/-- Files were opened, in this order, and then closed, each of them once. Nothing else is open than
was before. -/
structure Released (hs : List Handle) (d d' : Descriptors) : Prop where
  nodup : hs.Nodup
  unused : ∀ e ∈ d.table, e.1 ∉ hs
  table : d'.table = d.table
  history : d'.history = (hs.map .closed).reverse ++ (hs.map .opened).reverse ++ d.history

theorem lt_fresh {e : Handle × OpenFile} (h : e ∈ d.table) : e.1 < d.fresh := by
  unfold fresh
  generalize d.table = table at h
  induction table with
  | nil => exact absurd h List.not_mem_nil
  | cons first table ih =>
    rw [List.foldr_cons]
    rcases List.mem_cons.1 h with rfl | h
    · exact Nat.le_max_left _ _
    · exact Nat.lt_of_lt_of_le (ih h) (Nat.le_max_right _ _)

theorem beyond_nil (base : Descriptors) : Beyond base [] base :=
  ⟨List.nodup_nil, fun _ _ => List.not_mem_nil, ⟨[], rfl, rfl⟩, rfl⟩

theorem released_nil (d : Descriptors) : Released [] d d :=
  ⟨List.nodup_nil, fun _ _ => List.not_mem_nil, rfl, rfl⟩

theorem Beyond.insert (hb : Beyond base hs d) (f : OpenFile) :
    Beyond base (hs ++ [(d.insert f).2]) (d.insert f).1 := by
  obtain ⟨files, htable, hkeys⟩ := hb.table
  have hfiles : ∀ e ∈ files, e.1 < d.fresh := fun e he =>
    lt_fresh (htable ▸ List.mem_append_left _ he)
  have hbase : ∀ e ∈ base.table, e.1 < d.fresh := fun e he =>
    lt_fresh (htable ▸ List.mem_append_right _ he)
  have hnew : d.fresh ∉ hs := by
    intro hmem
    rw [← List.mem_reverse, ← hkeys] at hmem
    obtain ⟨e, he, hfresh⟩ := List.mem_map.1 hmem
    exact Nat.ne_of_lt (hfiles e he) hfresh
  refine ⟨?_, fun e he hmem => ?_, ⟨(d.fresh, f) :: files, ?_, ?_⟩, ?_⟩
  · refine List.nodup_append.2 ⟨hb.nodup, List.pairwise_singleton _ _, fun a ha b hf => ?_⟩
    rw [List.mem_singleton.1 hf]
    rintro rfl
    exact hnew ha
  · rcases List.mem_append.1 hmem with hmem | hmem
    · exact hb.unused e he hmem
    · exact Nat.ne_of_lt (hbase e he) (List.mem_singleton.1 hmem)
  · simp [Descriptors.insert, htable]
  · simp [Descriptors.insert, hkeys]
  · simp [Descriptors.insert, hb.history]

theorem Beyond.update (hb : Beyond base hs d) (hh : h ∈ hs) (f : OpenFile) :
    Beyond base hs (d.update h f) := by
  obtain ⟨files, htable, hkeys⟩ := hb.table
  have hbase : base.table.map (fun e => if e.1 = h then (h, f) else e) = base.table := by
    refine (List.map_congr_left fun e he => ?_).trans (List.map_id _)
    have hne : e.1 ≠ h := fun he' => hb.unused e he (he' ▸ hh)
    exact if_neg hne
  refine ⟨hb.nodup, hb.unused, ⟨files.map fun e => if e.1 = h then (h, f) else e, ?_, ?_⟩,
    hb.history⟩
  · rw [Descriptors.update, htable, List.map_append, hbase]
  · rw [List.map_map, ← hkeys]
    refine List.map_congr_left fun e _ => ?_
    by_cases he : e.1 = h
    · simp [he]
    · simp [he]

theorem foldl_close (hs : List Handle) (d : Descriptors) :
    hs.foldl close d =
      ⟨d.table.filter (·.1 ∉ hs), (hs.map .closed).reverse ++ d.history⟩ := by
  induction hs generalizing d with
  | nil =>
    have htable : d.table.filter (·.1 ∉ ([] : List Handle)) = d.table :=
      List.filter_eq_self.2 fun e _ => decide_eq_true List.not_mem_nil
    rw [htable]
    rfl
  | cons h hs ih =>
    have htable : (d.table.filter (·.1 != h)).filter (·.1 ∉ hs) =
        d.table.filter (·.1 ∉ h :: hs) := by
      rw [List.filter_filter]
      refine List.filter_congr fun e _ => ?_
      by_cases he : e.1 = h
      · simp [he]
      · simp [he]
    rw [List.foldl_cons, ih, close, htable]
    simp

/-- All that were opened are closed again. -/
theorem Beyond.released (hb : Beyond base hs d) : Released hs base (hs.foldl close d) := by
  obtain ⟨files, htable, hkeys⟩ := hb.table
  have hfiles : files.filter (·.1 ∉ hs) = [] := by
    refine List.filter_eq_nil_iff.2 fun e he => ?_
    have hmem : e.1 ∈ hs := by
      rw [← List.mem_reverse, ← hkeys]
      exact List.mem_map_of_mem he
    simpa using hmem
  have hbase : base.table.filter (·.1 ∉ hs) = base.table :=
    List.filter_eq_self.2 fun e he => decide_eq_true (hb.unused e he)
  rw [foldl_close]
  refine ⟨hb.nodup, hb.unused, ?_, ?_⟩
  · rw [htable, List.filter_append, hfiles, hbase, List.nil_append]
  · rw [hb.history, List.append_assoc]

end Descriptors

/-- The handle behind an outlet, if it is no stream of the shell. -/
def Outlet.handles : Outlet → List Handle
  | .own => []
  | .handle h => [h]

def Outlets.handles (o : Outlets) : List Handle := o.output.handles ++ o.errors.handles

namespace World

/-! What the shell writes to its own streams, and what it notes, leaves all open files alone. -/

theorem release_descriptors (w : World) : w.release.1.descriptors = w.descriptors := by
  unfold release
  split <;> rfl

theorem flush_descriptors (w : World) : w.flush.1.descriptors = w.descriptors :=
  next_stage (·.descriptors = w.descriptors) (fun _ h => h) (release_descriptors w)

theorem writeOwn_descriptors (w : World) (bs : Bytes) :
    (w.writeOwn bs).1.descriptors = w.descriptors :=
  writeOwn_stages (·.descriptors = w.descriptors) (fun w' h => (release_descriptors w').trans h)
    (fun _ _ h => h) (fun _ _ h => h) bs rfl

theorem writeLog_descriptors (w : World) (l : Log) (bs : Bytes) :
    (w.writeLog l bs).descriptors = w.descriptors := by
  unfold writeLog
  split
  · rfl
  · rfl

theorem note_descriptors (w : World) (r : Record) : (w.note r).descriptors = w.descriptors := by
  unfold note
  dsimp only
  split
  · rfl
  · split
    · exact writeLog_descriptors _ _ _
    · rfl

theorem complain_own_descriptors (w : World) (message : Text) :
    (w.complain .own message).1.descriptors = w.descriptors :=
  next_stage (·.descriptors = w.descriptors) (fun _ h => h) rfl

theorem report_own_descriptors (w : World) (message : Text) :
    (w.report .own message).descriptors = w.descriptors :=
  report_stages (·.descriptors = w.descriptors) message
    (fun r w' h => (note_descriptors w' r).trans h)
    (fun w' h => (complain_own_descriptors w' message).trans h) rfl

theorem ignoreAll_descriptors (rs : Redirects) (w : World) :
    (w.ignoreAll rs).descriptors = w.descriptors := by
  induction rs generalizing w with
  | nil => rfl
  | cons r rs ih => exact (ih _).trans (note_descriptors w _)

/-! What is written to an open file changes what is behind its handle and no other. -/

theorem beyond_writeHandle (hb : base.Beyond hs w.descriptors) (hh : h ∈ hs) (bs : Bytes) :
    base.Beyond hs (w.writeHandle h bs).1.descriptors := by
  unfold writeHandle
  split
  · exact hb
  · exact hb.update hh _

theorem beyond_write (hb : base.Beyond hs w.descriptors) (ho : out.handles ⊆ hs) (bs : Bytes) :
    base.Beyond hs (w.write out bs).1.descriptors := by
  cases out with
  | own =>
    rw [write, writeOwn_descriptors]
    exact hb
  | handle h => exact beyond_writeHandle hb (ho (List.mem_singleton_self h)) bs

theorem beyond_print (hb : base.Beyond hs w.descriptors) (ho : out.handles ⊆ hs) (ts : List Text) :
    base.Beyond hs (print out ts w).1.descriptors :=
  print_stages (base.Beyond hs ·.descriptors) (fun bs _ h => beyond_write h ho bs) ts hb

theorem beyond_note (hb : base.Beyond hs w.descriptors) (r : Record) :
    base.Beyond hs (w.note r).descriptors := by
  rw [note_descriptors]
  exact hb

theorem released_note (hr : base.Released hs w.descriptors) (r : Record) :
    base.Released hs (w.note r).descriptors := by
  rw [note_descriptors]
  exact hr

theorem released_report (hr : base.Released hs w.descriptors) (message : Text) :
    base.Released hs (w.report .own message).descriptors := by
  rw [report_own_descriptors]
  exact hr

theorem beyond_complain (hb : base.Beyond hs w.descriptors) (ho : out.handles ⊆ hs)
    (message : Text) : base.Beyond hs (w.complain out message).1.descriptors := by
  cases out with
  | own =>
    rw [complain_own_descriptors]
    exact hb
  | handle h => exact beyond_writeHandle hb (ho (List.mem_singleton_self h)) _

theorem beyond_report (hb : base.Beyond hs w.descriptors) (ho : out.handles ⊆ hs)
    (message : Text) : base.Beyond hs (w.report out message).descriptors :=
  report_stages (base.Beyond hs ·.descriptors) message (fun r _ h => beyond_note h r)
    (fun _ h => beyond_complain h ho message) hb

theorem beyond_flushOutlet (hb : base.Beyond hs w.descriptors) (out : Outlet) :
    base.Beyond hs (w.flushOutlet out).1.descriptors := by
  cases out with
  | own =>
    rw [flushOutlet, flush_descriptors]
    exact hb
  | handle h => exact hb

theorem beyond_openStream (hb : base.Beyond hs w.descriptors) (currentDir : Text)
    (target : Option Text) :
    match w.openStream currentDir target with
    | (w', .error _) => base.Beyond hs w'.descriptors
    | (w', .ok out) => base.Beyond (hs ++ out.handles) w'.descriptors := by
  have hstream := streamed_openStream currentDir target w
  generalize w.openStream currentDir target = r at hstream
  cases hstream with
  | own =>
    rw [← List.append_nil hs] at hb
    exact hb
  | failed => exact hb
  | opened => exact hb.insert _

theorem closeOutlet_descriptors (out : Outlet) (w : World) :
    (w.closeOutlet out).descriptors = out.handles.foldl Descriptors.close w.descriptors := by
  cases out with
  | own => rfl
  | handle h => rfl

theorem close_descriptors (o : Outlets) (w : World) :
    (o.close w).descriptors = o.handles.foldl Descriptors.close w.descriptors := by
  rw [Outlets.close, closeOutlet_descriptors, closeOutlet_descriptors, Outlets.handles,
    List.foldl_append]

/-- The handles that the targets of a line get, in the order in which these are opened. -/
def opened (currentDir : Text) (rs : Redirects) (w : World) : List Handle :=
  match (w.ignoreAll (rs.below standardOutput)).openStream currentDir
      (rs.target? standardOutput) with
  | (_, .error _) => []
  | (w, .ok out) =>
    match w.openStream currentDir (rs.target? standardError) with
    | (_, .error _) => out.handles
    | (_, .ok err) => out.handles ++ err.handles

/-- What is open once all targets are, or once one of them could not be opened. -/
theorem openTargets_descriptors (command currentDir : Text) {rs : Redirects} (h : rs.Ascending)
    (w : World) :
    match openTargets command currentDir rs {} w with
    | (w', .error _) => Descriptors.Released (w.opened currentDir rs) w.descriptors w'.descriptors
    | (w', .ok o) =>
      w.opened currentDir rs = o.handles ∧ w.descriptors.Beyond o.handles w'.descriptors := by
  have hb : w.descriptors.Beyond [] (w.ignoreAll (rs.below standardOutput)).descriptors := by
    rw [ignoreAll_descriptors]
    exact Descriptors.beyond_nil w.descriptors
  rw [openTargets_eq command currentDir h, opened]
  have hout := beyond_openStream hb currentDir (rs.target? standardOutput)
  cases he : (w.ignoreAll (rs.below standardOutput)).openStream currentDir
      (rs.target? standardOutput) with
  | mk w₁ r =>
    rw [he] at hout
    cases r with
    | error cause => exact hout.released
    | ok out =>
      have herr := beyond_openStream hout currentDir (rs.target? standardError)
      dsimp only
      cases he' : w₁.openStream currentDir (rs.target? standardError) with
      | mk w₂ r' =>
        rw [he'] at herr
        cases r' with
        | error cause =>
          dsimp only
          rw [closeOutlet_descriptors]
          exact herr.released
        | ok err =>
          refine ⟨rfl, ?_⟩
          rw [ignoreAll_descriptors]
          exact herr

end World
end CommandShell
