import CommandShell.Proofs.Disk.Emptied
import CommandShell.Proofs.World.Steady
import CommandShell.Proofs.World.Written
/-! Files that were opened empty for a command, and what is in them while it runs. -/
namespace CommandShell

variable {w w' : World} {h : Handle} {n m : Nat} {bs cs : Bytes} {files : List Nat}

theorem overwrite_end (bs cs : Bytes) : overwrite bs bs.length cs = bs ++ cs := by
  have hdrop : bs.drop (bs.length + cs.length) = [] :=
    List.drop_eq_nil_of_le (Nat.le_add_right _ _)
  rw [overwrite, hdrop, List.take_length, Nat.sub_self, List.replicate_zero, List.append_nil,
    List.append_nil]

/-- A file that was opened empty, after so much was written to it. -/
def filledFile (n : Nat) (bs : Bytes) : OpenFile := ⟨.content n, bs.length, false, .writing⟩

theorem Disk.write_filled {d : Disk} (hd : d.content n = bs) (cs : Bytes) :
    (d.write (filledFile n bs) cs).1.content n = bs ++ cs ∧
      (d.write (filledFile n bs) cs).2 = (filledFile n (bs ++ cs), none) := by
  unfold write
  by_cases hcs : cs.isEmpty = true
  · rw [if_pos hcs, List.isEmpty_iff.1 hcs, List.append_nil]
    exact ⟨hd, rfl⟩
  · rw [if_neg hcs]
    simp only [filledFile, hd, Bool.false_eq_true, ↓reduceIte, overwrite_end, content_refill_self,
      List.length_append]
    exact ⟨trivial, trivial⟩

namespace World

/-- All that is in the file behind a handle was written there, from its start on. -/
structure Filled (h : Handle) (n : Nat) (bs : Bytes) (w : World) : Prop where
  file : w.descriptors.get? h = some (filledFile n bs)
  content : w.disk.content n = bs

theorem Filled.of_agrees (hf : Filled h n bs w) (hd : w.disk.AgreesBut files w'.disk)
    (hn : n ∉ files) (hg : w'.descriptors.get? h = w.descriptors.get? h) : Filled h n bs w' :=
  ⟨hg.trans hf.file, (hd.content n hn).trans hf.content⟩

theorem Filled.filesOf (hf : Filled h n bs w) : w.filesOf h = [n] := by
  rw [World.filesOf, hf.file]
  rfl

/-- A write to such a file succeeds and adds to what is in it. -/
theorem Filled.writeHandle (hf : Filled h n bs w) (cs : Bytes) :
    Filled h n (bs ++ cs) (w.writeHandle h cs).1 ∧ (w.writeHandle h cs).2 = none := by
  obtain ⟨hcontent, hrest⟩ := Disk.write_filled hf.content cs
  unfold World.writeHandle
  rw [hf.file]
  dsimp only [Surroundings.writeFile]
  refine ⟨⟨?_, hcontent⟩, ?_⟩
  · rw [Descriptors.get?_update_self hf.file]
    exact congrArg (some ·.1) hrest
  · have hfault := congrArg Prod.snd hrest
    simp only [World.disk] at hfault
    rw [hfault]
    rfl

theorem Filled.print (hf : Filled h n bs w) (ts : List Text) :
    Filled h n (bs ++ ts.flatMap Utf8.encode) (print (.handle h) ts w).1 ∧
      (World.print (.handle h) ts w).2 = none := by
  induction ts generalizing bs w with
  | nil =>
    rw [List.flatMap_nil, List.append_nil]
    exact ⟨hf, rfl⟩
  | cons t ts ih =>
    obtain ⟨hw, hok⟩ := hf.writeHandle (Utf8.encode t)
    rw [World.print, World.write]
    cases he : w.writeHandle h (Utf8.encode t) with
    | mk w' fault =>
      rw [he] at hw hok
      obtain rfl : fault = none := hok
      rw [List.flatMap_cons, ← List.append_assoc]
      exact ih hw

/-- The file that an outlet leads to and what was written to it, unless it is a stream of the
shell. -/
inductive Holds (w : World) : Outlet → Option Nat → Bytes → Prop
  | own (bs : Bytes) : Holds w .own none bs
  | handle {h : Handle} {n : Nat} {bs : Bytes} (hf : Filled h n bs w) :
      Holds w (.handle h) (some n) bs

variable {out : Outlet} {file : Option Nat}

theorem Holds.content (hw : w.Holds out (some n) bs) :
    (∃ h, out = .handle h) ∧ w.disk.content n = bs := by
  cases hw with
  | handle hf => exact ⟨⟨_, rfl⟩, hf.content⟩

theorem Holds.of_agrees (hw : w.Holds out file bs) (hd : w.disk.AgreesBut files w'.disk)
    (hn : ∀ n, file = some n → n ∉ files)
    (hg : ∀ h, out = .handle h → w'.descriptors.get? h = w.descriptors.get? h) :
    w'.Holds out file bs := by
  cases hw with
  | own bs => exact .own bs
  | handle hf => exact .handle (hf.of_agrees hd (hn _ rfl) (hg _ rfl))

theorem Holds.beside (hw : w.Holds out file bs) (hf : Fills h w w') (hfiles : w.filesOf h = [n])
    (hne : file ≠ some n) (ho : out ≠ .handle h) : w'.Holds out file bs := by
  have hd := hf.disk
  rw [hfiles] at hd
  refine hw.of_agrees hd (fun m hm hmem => hne ?_) fun h' hh => hf.others h' fun he => ho ?_
  · rw [hm, List.mem_singleton.1 hmem]
  · rw [hh, he]

/-- The outlets of a command: apart from each other and from these files. -/
structure Apart (own : List Nat) (o : Outlets) (out err : Option Nat) : Prop where
  handles : ∀ h, o.output = .handle h → o.errors ≠ .handle h
  files : ∀ n, out = some n → err ≠ some n
  output : ∀ n, out = some n → n ∉ own
  errors : ∀ n, err = some n → n ∉ own

/-- The outlets hold what was written to them. Besides, only those files are other on the disk that
the shell writes to by itself: for records, and for each stream that has no file here. -/
structure Stocked (d : Disk) (own : List Nat) (o : Outlets) (out err : Option Nat) (bs es : Bytes)
    (w : World) : Prop where
  records_own : w.recordFiles ⊆ own
  output_own : out = none → w.outputFiles ⊆ own
  errors_own : err = none → w.errorsFiles ⊆ own
  disk : d.AgreesBut (own ++ out.toList ++ err.toList) w.disk
  output : w.Holds o.output out bs
  errors : w.Holds o.errors err es

variable {d : Disk} {own : List Nat} {o : Outlets} {out err : Option Nat} {es : Bytes}

theorem Stocked.aside (ha : Apart own o out err) (hs : Stocked d own o out err bs es w)
    (h : Aside files w w') (hfiles : files ⊆ own) : Stocked d own o out err bs es w' := by
  have hd := h.disk.mono hfiles
  have hg : ∀ h, w'.descriptors.get? h = w.descriptors.get? h := fun _ => by rw [h.descriptors]
  refine ⟨?_, ?_, ?_, hs.disk.trans (hd.mono ?_), ?_, ?_⟩
  · rw [h.records]
    exact hs.records_own
  · rw [h.output]
    exact hs.output_own
  · rw [h.toSameFiles.errors]
    exact hs.errors_own
  · exact fun n hn => List.mem_append_left _ (List.mem_append_left _ hn)
  · exact hs.output.of_agrees hd ha.output fun h _ => hg h
  · exact hs.errors.of_agrees hd ha.errors fun h _ => hg h

theorem Stocked.note (ha : Apart own o out err) (hs : Stocked d own o out err bs es w)
    (r : Record) : Stocked d own o out err bs es (w.note r) :=
  hs.aside ha (aside_note w r) hs.records_own

/-- More in a file of the command leaves the rest of the disk as it is. -/
theorem Stocked.fills {bs' es' : Bytes} (hs : Stocked d own o out err bs es w) (hf : Fills h w w')
    (hfiles : w.filesOf h = [n]) (hn : n ∈ out.toList ++ err.toList)
    (hout : w'.Holds o.output out bs') (herr : w'.Holds o.errors err es') :
    Stocked d own o out err bs' es' w' := by
  have hd := hf.disk
  rw [hfiles] at hd
  refine ⟨?_, ?_, ?_, hs.disk.trans (hd.mono ?_), hout, herr⟩
  · rw [hf.records]
    exact hs.records_own
  · rw [hf.output]
    exact hs.output_own
  · rw [hf.errors]
    exact hs.errors_own
  · rintro m hm
    rw [List.mem_singleton.1 hm, List.append_assoc]
    exact List.mem_append_right _ hn

/-- Whatever can be printed is, and to a file of the command everything can be. -/
theorem Stocked.print (ha : Apart own o out err) (hs : Stocked d own o out err bs es w)
    (ts : List Text) :
    Stocked d own o out err (bs ++ ts.flatMap Utf8.encode) es (print o.output ts w).1 ∧
      (out ≠ none → (World.print o.output ts w).2 = none) := by
  obtain ⟨output, errors⟩ := o
  cases hs.output with
  | own bs =>
    have haside := hs.aside ha (aside_print_own w ts) (hs.output_own rfl)
    exact ⟨{ haside with output := .own _ }, fun h => absurd rfl h⟩
  | handle hf =>
    rename_i h n
    obtain ⟨hfilled, hok⟩ := hf.print ts
    have hfills := fills_print_handle w h ts
    have herrors := hs.errors.beside hfills hf.filesOf (ha.files n rfl) (ha.handles h rfl)
    exact ⟨hs.fills hfills hf.filesOf (List.mem_cons_self ..) (.handle hfilled) herrors,
      fun _ => hok⟩

theorem report_handle_eq (w : World) (h : Handle) (message : Text) :
    w.report (.handle h) message =
      match (w.note (.failed message)).writeHandle h (Utf8.encode (message ++ "\n")) with
      | (w, none) => w
      | (w, some _) => w.note (.notReported message) := rfl

/-- A message goes to the errors of the command, or else to those of the shell. -/
theorem Stocked.report (ha : Apart own o out err) (hs : Stocked d own o out err bs es w)
    (message : Text) :
    Stocked d own o out err bs (es ++ Utf8.encode (message ++ "\n"))
      (w.report o.errors message) := by
  obtain ⟨output, errors⟩ := o
  cases hs.errors with
  | own es =>
    have haside := hs.aside ha (aside_report_own w message)
      (List.append_subset.2 ⟨hs.errors_own rfl, hs.records_own⟩)
    exact { haside with errors := .own _ }
  | handle hf =>
    rename_i h n
    have hnoted := hs.note ha (.failed message)
    dsimp only
    rw [report_handle_eq]
    generalize w.note (.failed message) = noted at hnoted
    have hfilled : Filled h n es noted := by
      cases hnoted.errors with
      | handle hf => exact hf
    have hfills := fills_writeHandle noted h (Utf8.encode (message ++ "\n"))
    obtain ⟨hf', hok⟩ := hfilled.writeHandle (Utf8.encode (message ++ "\n"))
    have houtput := hnoted.output.beside hfills hfilled.filesOf
      (fun hout => ha.files n hout rfl) fun ho => ha.handles h ho rfl
    have hended := hnoted.fills hfills hfilled.filesOf (by simp) houtput (.handle hf')
    cases he : noted.writeHandle h (Utf8.encode (message ++ "\n")) with
    | mk w' fault =>
      rw [he] at hok hended
      obtain rfl : fault = none := hok
      exact hended

theorem Stocked.flush (ha : Apart own o out err) (hs : Stocked d own o out err bs es w) :
    Stocked d own o out err bs es (w.flushOutlet o.output).1 := by
  obtain ⟨output, errors⟩ := o
  cases hs.output with
  | own bs => exact hs.aside ha (aside_flush w) (hs.output_own rfl)
  | handle hf => exact hs

variable {user : Place} {currentDir : Text} {d' : Disk} {target : Option Text}

/-- A target that is provided for can be opened, whatever the shell has written to its own files. -/
theorem openStream_provided (h : Provided user currentDir d target file d')
    (hd : d.AgreesBut own w.disk) (hc : w.cwd = user) (hn : ∀ n, file = some n → n ∉ own) :
    ∃ w' out, w.openStream currentDir target = (w', .ok out) ∧ d'.AgreesBut own w'.disk ∧
      SameFiles w w' ∧ w'.cwd = user ∧ w'.Holds out file [] ∧
      (∀ h f, w.descriptors.get? h = some f →
        w'.descriptors.get? h = some f ∧ out ≠ .handle h) := by
  cases h with
  | absent => exact ⟨w, .own, rfl, hd, .refl w, hc, .own [], fun h f hf => ⟨hf, nofun⟩⟩
  | opened hopen =>
    rename_i t n
    obtain ⟨disk, hopened, hagrees⟩ := hd.openFile_ok hopen
    have hempty : disk.content n = [] :=
      (hagrees.content n (hn n rfl)).trans (Disk.emptied_of_openFile hopen).content_self
    have hstream : w.openStream currentDir (some t) =
        ({ w with surroundings := { w.surroundings with disk }
                  descriptors := (w.descriptors.insert (filledFile n [])).1 },
          .ok (.handle (w.descriptors.insert (filledFile n [])).2)) := by
      rw [openStream, openFile, hc, hopened]
      rfl
    refine ⟨_, _, hstream, hagrees, ⟨rfl, rfl, rfl⟩, hc, .handle ⟨?_, hempty⟩, fun h f hf => ?_⟩
    · exact Descriptors.get?_insert_self _ _
    · obtain ⟨hkept, hne⟩ := Descriptors.get?_insert_of_some hf (filledFile n [])
      refine ⟨hkept, fun he => hne ?_⟩
      cases he
      rfl

end World
end CommandShell
