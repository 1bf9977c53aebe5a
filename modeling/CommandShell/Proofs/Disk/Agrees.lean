import CommandShell.Proofs.Disk.Entries
/-! Disks that differ in what is in some of their files only. Paths lead to the same places on both,
and files are opened alike. -/
namespace CommandShell.Disk

variable {d d' d'' opened : Disk} {user user' : Place} {how : Opening} {path : Text} {f : OpenFile}
  {cause : Fault} {files : List Nat} {n : Nat}

/-- The entries are the same, and so is what is in the other files. -/
structure AgreesBut (files : List Nat) (d d' : Disk) : Prop where
  entries : d'.entries = d.entries
  next : d'.next = d.next
  content : ∀ n, n ∉ files → d'.content n = d.content n

theorem AgreesBut.refl (files : List Nat) (d : Disk) : AgreesBut files d d :=
  ⟨rfl, rfl, fun _ _ => rfl⟩

theorem AgreesBut.trans (h : AgreesBut files d d') (h' : AgreesBut files d' d'') :
    AgreesBut files d d'' :=
  ⟨h'.entries.trans h.entries, h'.next.trans h.next,
    fun n hn => (h'.content n hn).trans (h.content n hn)⟩

theorem AgreesBut.symm (h : AgreesBut files d d') : AgreesBut files d' d :=
  ⟨h.entries.symm, h.next.symm, fun n hn => (h.content n hn).symm⟩

theorem AgreesBut.mono {files' : List Nat} (h : AgreesBut files d d') (hs : files ⊆ files') :
    AgreesBut files' d d' :=
  ⟨h.entries, h.next, fun n hn => h.content n fun hmem => hn (hs hmem)⟩

theorem AgreesBut.lookup (h : AgreesBut files d d') (l : Location) : d'.lookup l = d.lookup l := by
  rw [Disk.lookup, h.entries]
  rfl

theorem content_refill_of_ne (d : Disk) {m : Nat} (bs : Bytes) (h : m ≠ n) :
    (d.refill n bs).content m = d.content m := by
  have hmn : (m == n) = false := beq_false_of_ne h
  have hkept : (d.contents.filter (·.1 != n)).lookup m = d.contents.lookup m := by
    generalize d.contents = contents
    induction contents with
    | nil => rfl
    | cons c contents ih =>
      obtain ⟨k, held⟩ := c
      by_cases hk : k = n
      · subst hk
        simp [List.lookup_cons, hmn, ih]
      · simp [List.lookup_cons, hk, ih]
  simp [content, Disk.refill, List.lookup_cons, hmn, hkept]

theorem agreesBut_refill (d : Disk) (bs : Bytes) (h : n ∈ files) :
    AgreesBut files d (d.refill n bs) := by
  refine ⟨rfl, rfl, fun m hm => content_refill_of_ne d bs ?_⟩
  rintro rfl
  exact hm h

theorem AgreesBut.refill (h : AgreesBut files d d') (n : Nat) (bs : Bytes) :
    AgreesBut files (d.refill n bs) (d'.refill n bs) := by
  refine ⟨h.entries, h.next, fun m hm => ?_⟩
  by_cases he : m = n
  · rw [he, content_refill_self, content_refill_self]
  · rw [content_refill_of_ne d bs he, content_refill_of_ne d' bs he, h.content m hm]

theorem advance_congr {jump jump' : Location → List Text → Except Errno Reached} {purpose : Purpose}
    (h : AgreesBut files d d') (hu : user'.superuser = user.superuser)
    (hj : ∀ here names, jump' here names = jump here names) (here : Location) (names : List Text) :
    d'.advance user' purpose jump' here names = d.advance user purpose jump here names := by
  induction names generalizing here with
  | nil => rfl
  | cons name rest ih =>
    unfold advance
    rw [h.lookup, h.lookup]
    simp only [ih, hj, permits_congr hu]

/-- Of the user, a walk asks the rights only. -/
theorem walk_congr {purpose : Purpose} (h : AgreesBut files d d')
    (hu : user'.superuser = user.superuser) (links : Nat) (here : Location) (names : List Text) :
    d'.walk user' purpose links here names = d.walk user purpose links here names := by
  induction links generalizing here names with
  | zero => exact advance_congr h hu (fun _ _ => rfl) here names
  | succ links ih => exact advance_congr h hu ih here names

theorem AgreesBut.isAt (h : AgreesBut files d d') (l : Location) (serials : List Nat) :
    d'.isAt l serials = d.isAt l serials := by
  rw [Disk.isAt, Disk.isAt, h.lookup]

theorem walkRemoved_congr {purpose : Purpose} (h : AgreesBut files d d') (here : Location)
    (serials : List Nat) (names : List Text) :
    d'.walkRemoved user purpose here serials names =
      d.walkRemoved user purpose here serials names := by
  induction names generalizing here serials with
  | nil => rfl
  | cons name rest ih =>
    unfold walkRemoved
    rw [ih, ih, h.isAt, walk_congr h rfl]

theorem AgreesBut.locate (h : AgreesBut files d d') (user : Place) (purpose : Purpose)
    (path : Text) :
    d'.locate user purpose path = d.locate user purpose path := by
  have hholds : d'.holds user = d.holds user := h.isAt _ _
  unfold Disk.locate
  rw [hholds]
  simp only [walk_congr h rfl, walkRemoved_congr h]

theorem AgreesBut.lineage (h : AgreesBut files d d') (l : Location) :
    d'.lineage l = d.lineage l := by
  induction l with
  | nil => rw [Disk.lineage, Disk.lineage, h.lookup]
  | cons n l ih => rw [Disk.lineage, Disk.lineage, h.lookup, ih]

/-- An absolute path leads to the same place for everyone of the same rights. -/
theorem AgreesBut.locate_absolute (h : AgreesBut files d d')
    (hu : user'.superuser = user.superuser) (ha : Path.isAbsolute path = true) (purpose : Purpose) :
    d'.locate user' purpose path = d.locate user purpose path := by
  unfold Disk.locate
  simp only [ha, if_true, walk_congr h hu]

theorem AgreesBut.isDirectory_absolute (h : AgreesBut files d d')
    (hu : user'.superuser = user.superuser) (ha : Path.isAbsolute path = true) :
    d'.isDirectory user' path = d.isDirectory user path := by
  unfold Disk.isDirectory Disk.find
  rw [h.locate_absolute hu ha]
  simp only [h.lookup]

theorem AgreesBut.enter_absolute (h : AgreesBut files d d')
    (hu : user'.superuser = user.superuser) (hm : user'.mask = user.mask)
    (ha : Path.isAbsolute path = true) : d'.enter user' path = d.enter user path := by
  unfold Disk.enter
  rw [h.locate_absolute hu ha, hu, hm]
  simp only [h.lookup, h.lineage, permits_congr hu]

/-- What is written goes to one file and no other. -/
theorem agreesBut_write (d : Disk) (bs : Bytes) (hf : ∀ n, f.written? = some n → n ∈ files) :
    AgreesBut files d (d.write f bs).1 := by
  unfold write
  split
  · exact .refl _ d
  · split
    · exact .refl _ d
    · exact .refl _ d
    · exact .refl _ d
    · rename_i ht hr
      refine agreesBut_refill d _ (hf _ ?_)
      rw [OpenFile.written?, ht]
      cases ha : f.access with
      | reading => exact (hr ha).elim
      | writing => rfl
      | both => rfl

theorem written?_write (d : Disk) (f : OpenFile) (bs : Bytes) :
    (d.write f bs).2.1.written? = f.written? := by
  unfold write
  split
  · rfl
  · split
    · rfl
    · rfl
    · rfl
    · rfl

/-- The same file was opened, or both failed alike. -/
inductive Alike (files : List Nat) :
    Except Fault (Disk × OpenFile) → Except Fault (Disk × OpenFile) → Prop
  | failed (cause : Fault) : Alike files (.error cause) (.error cause)
  | opened {d d' : Disk} (f : OpenFile) (h : AgreesBut files d d') :
      Alike files (.ok (d, f)) (.ok (d', f))

theorem AgreesBut.reopen (h : AgreesBut files d d') (user : Place) (how : Opening) (e : Entry) :
    Alike files (d.reopen user how e) (d'.reopen user how e) := by
  unfold Disk.reopen
  cases e.node with
  | directory => exact .failed _
  | link target => exact .failed _
  | interpreter => exact .failed _
  | device v =>
    dsimp only
    split
    · exact .opened _ h
    · exact .failed _
  | file =>
    dsimp only
    split
    · refine .opened _ ?_
      split
      · exact h.refill _ _
      · exact h
    · exact .failed _

theorem AgreesBut.put (h : AgreesBut files d d') (l : Location) (mode : Nat) (node : Node) :
    AgreesBut files (d.put l mode node) (d'.put l mode node) := by
  refine ⟨?_, ?_, h.content⟩
  · dsimp only [Disk.put]
    rw [h.entries, h.next]
  · dsimp only [Disk.put]
    rw [h.next]

theorem AgreesBut.create (h : AgreesBut files d d') (user : Place) (how : Opening) (l : Location) :
    Alike files (d.create user how l) (d'.create user how l) := by
  unfold Disk.create
  rw [h.lookup, h.next]
  split
  · exact .failed _
  · split
    · exact .opened _ ((h.put _ _ _).refill _ _)
    · exact .failed _

theorem AgreesBut.openFile (h : AgreesBut files d d') (user : Place) (how : Opening) (path : Text) :
    Alike files (d.openFile user how path) (d'.openFile user how path) := by
  unfold Disk.openFile
  rw [h.locate]
  split
  · exact .failed _
  · exact .failed _
  · exact h.create user how _
  · rw [h.lookup]
    split
    · exact .failed _
    · exact h.reopen user how _

theorem AgreesBut.openFile_error (h : AgreesBut files d d')
    (he : d.openFile user how path = .error cause) : d'.openFile user how path = .error cause := by
  have ha := h.openFile user how path
  rw [he] at ha
  generalize d'.openFile user how path = r at ha
  cases ha
  rfl

theorem AgreesBut.openFile_ok (h : AgreesBut files d d')
    (ho : d.openFile user how path = .ok (opened, f)) :
    ∃ opened', d'.openFile user how path = .ok (opened', f) ∧ AgreesBut files opened opened' := by
  have ha := h.openFile user how path
  rw [ho] at ha
  generalize d'.openFile user how path = r at ha
  cases ha with
  | opened f h => exact ⟨_, rfl, h⟩

/-- What opening a path for new content makes of a disk. -/
inductive Readied (user : Place) (path : Text) (d : Disk) : Disk → Prop
  | device {l : Location} {e : Entry} {v : Device}
      (hl : d.locate user .create path = .ok (.entry l)) (he : d.lookup l = some e)
      (hn : e.node = .device v) : Readied user path d d
  | emptied {l : Location} {e : Entry} (hl : d.locate user .create path = .ok (.entry l))
      (he : d.lookup l = some e) (hn : e.node = .file) :
      Readied user path d (d.refill e.serial [])
  | created {l : Location} (mode : Nat) (hl : d.locate user .create path = .ok (.vacant l)) :
      Readied user path d ((d.put l mode .file).refill d.next [])

theorem readied_of_openFile (h : d.openFile user .truncate path = .ok (opened, f)) :
    Readied user path d opened := by
  unfold Disk.openFile at h
  split at h
  · cases h
  · cases h
  · rename_i l hl
    unfold Disk.create at h
    split at h
    · cases h
    · split at h
      · cases h
        exact .created _ hl
      · cases h
  · rename_i l hl
    split at h
    · cases h
    · rename_i e he
      unfold Disk.reopen at h
      split at h
      · cases h
      · cases h
      · cases h
      · split at h
        · cases h
          exact .device hl he ‹_›
        · cases h
      · split at h
        · cases h
          exact .emptied hl he ‹_›
        · cases h

end CommandShell.Disk
