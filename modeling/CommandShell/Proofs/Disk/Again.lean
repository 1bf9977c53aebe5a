import CommandShell.Proofs.Disk.Entries
import CommandShell.Proofs.Disk.Onward
import CommandShell.Proofs.Path.Plain
/-! Where no entry is lost, a walk ends where it ended before. -/
namespace CommandShell.Disk

variable {d d' : Disk} {user user' place : Place} {purpose : Purpose} {path : Text}
  {here l : Location} {names : List Text} {n : Nat} {r : Reached}

theorem advance_again {jump jump' : Location → List Text → Except Errno Reached}
    (hd : d.Extends d') (hu : user'.superuser = user.superuser)
    (hv : ∀ k, r = .vacant k → d'.lookup k = none)
    (hj : ∀ here names, jump here names = .ok r → jump' here names = .ok r)
    (h : d.advance user purpose jump here names = .ok r) :
    d'.advance user' purpose jump' here names = .ok r := by
  induction names generalizing here with
  | nil => exact h
  | cons name rest ih =>
    unfold advance at h ⊢
    cases hl : d.lookup here with
    | none =>
      rw [hl] at h
      cases h
    | some e =>
      rw [hl] at h
      rw [hd _ _ hl]
      dsimp only at h ⊢
      rw [permits_congr hu]
      split at h
      · cases h
      split at h
      · rw [if_neg ‹_›, if_pos ‹_›]
        exact ih h
      split at h
      · cases h
      split at h
      · rw [if_neg ‹_›, if_neg ‹_›, if_neg ‹_›, if_pos ‹_›]
        exact ih h
      split at h
      · rw [if_neg ‹_›, if_neg ‹_›, if_neg ‹_›, if_neg ‹_›, if_pos ‹_›]
        exact ih h
      split at h
      · cases h
      split at h
      · cases h
      rw [if_neg ‹_›, if_neg ‹_›, if_neg ‹_›, if_neg ‹_›, if_neg ‹_›, if_neg ‹_›, if_neg ‹_›]
      cases hc : d.lookup (name :: here) with
      | none =>
        rw [hc] at h
        dsimp only at h
        split at h
        · cases h
          rw [hv _ rfl, if_pos ‹_›]
        · cases h
      | some child =>
        rw [hc] at h
        rw [hd _ _ hc]
        dsimp only at h ⊢
        cases hn : child.node with
        | link target =>
          rw [hn] at h
          exact hj _ _ h
        | directory =>
          rw [hn] at h
          exact ih h
        | file =>
          rw [hn] at h
          exact ih h
        | device v =>
          rw [hn] at h
          exact ih h
        | interpreter =>
          rw [hn] at h
          exact ih h

/-- Neither more entries nor more links to follow change where a walk ends that succeeds. -/
theorem walk_again {few many : Nat} (hd : d.Extends d') (hu : user'.superuser = user.superuser)
    (hv : ∀ k, r = .vacant k → d'.lookup k = none) (hle : few ≤ many)
    (h : d.walk user purpose few here names = .ok r) :
    d'.walk user' purpose many here names = .ok r := by
  induction few generalizing many here names with
  | zero =>
    rw [walk_eq_advance]
    exact advance_again hd hu hv (fun _ _ h => by cases h) h
  | succ few ih =>
    cases many with
    | zero => exact absurd hle (Nat.not_succ_le_zero few)
    | succ many =>
      exact advance_again hd hu hv (fun _ _ h => ih (Nat.le_of_succ_le_succ hle) h) h

/-- More links to follow never change where a walk ends. -/
theorem walk_mono {few many : Nat} (hle : few ≤ many)
    (h : d.walk user purpose few here names = .ok r) :
    d.walk user purpose many here names = .ok r := by
  refine walk_again (.refl d) rfl (fun k hk => ?_) hle h
  rw [hk] at h
  exact lookup_of_walk_vacant h

/-- Every directory above a location is there. -/
def Rooted (d : Disk) : Location → Prop
  | [] => True
  | _ :: l => (∃ e, d.lookup l = some e) ∧ d.Rooted l

theorem Rooted.tail (h : d.Rooted l) : d.Rooted l.tail := by
  cases l with
  | nil => exact h
  | cons n l => exact h.2

theorem rooted_of_leads (h : d.Leads n here names l) (hr : d.Rooted here) : d.Rooted l := by
  induction h with
  | done => exact hr
  | stay hd hn hl ih => exact ih hr
  | up hd hl ih => exact ih hr.tail
  | down hd hn hc hc' hl ih =>
    obtain ⟨e, he, -⟩ := hd
    exact ih ⟨⟨e, he⟩, hr⟩
  | follow hd hn hc hc' hl ih =>
    refine ih ?_
    split
    · trivial
    · exact hr

theorem Extends.lineage {e : Entry} (h : d.Extends d') (hr : d.Rooted l)
    (hl : d.lookup l = some e) : d'.lineage l = d.lineage l := by
  induction l generalizing e with
  | nil => rw [Disk.lineage, Disk.lineage, hl, h _ _ hl]
  | cons n l ih =>
    obtain ⟨⟨above, ha⟩, hr⟩ := hr
    rw [Disk.lineage, Disk.lineage, hl, h _ _ hl, ih hr ha]

/-- A slash at the end of a directory's path changes nothing. -/
theorem leads_stem (h : d.Leads n here (Path.segments path) l) :
    d.Leads n here (Path.stem path) l := by
  rcases Path.segments_eq_stem path with he | he
  · rw [← he]
    exact h
  · exact leads_of_leads_concat_nil h he

/-- What it takes to get to a place along an absolute path. -/
structure Entered (d : Disk) (user : Place) (path : Text) (place : Place) (e : Entry) : Prop where
  located : d.locate user .inspect path = .ok (.entry place.location)
  walked : d.walk user .inspect linkLimit [] (Path.segments path) = .ok (.entry place.location)
  found : d.lookup place.location = some e
  isDirectory : e.isDirectory = true
  searched : user.permits e .search = true
  serials : place.serials = d.lineage place.location
  superuser : place.superuser = user.superuser
  mask : place.mask = user.mask

theorem locate_absolute (ha : Path.isAbsolute path = true)
    (h : d.locate user purpose path = .ok r) :
    d.walk user purpose linkLimit [] (Path.segments path) = .ok r := by
  unfold locate at h
  split at h
  · cases h
  split at h
  · cases h
  split at h
  · cases h
  exact ok_of_mapError h

/-- What can be located at all has a path that the system takes. -/
theorem fits_of_locate (h : d.locate user purpose path = .ok r) :
    '\x00' ∉ path ∧ byteLength path < pathLimit := by
  unfold locate at h
  split at h
  · cases h
  rename_i hzero
  split at h
  · cases h
  split at h
  · cases h
  rename_i hlong
  exact ⟨hzero, Nat.lt_of_not_le hlong⟩

theorem locate_of_walk (ha : Path.isAbsolute path = true)
    (hfits : '\x00' ∉ path ∧ byteLength path < pathLimit)
    (h : d.walk user purpose linkLimit [] (Path.segments path) = .ok r) :
    d.locate user purpose path = .ok r := by
  obtain ⟨hzero, hshort⟩ := hfits
  have hnil : path ≠ [] := by
    rintro rfl
    cases ha
  rw [locate, if_neg hzero, if_neg hnil, if_neg (Nat.not_le.2 hshort)]
  dsimp only
  rw [if_pos ha, h]
  rfl

/-- An absolute path is located as before, whoever looks with the same rights. -/
theorem locate_again (ha : Path.isAbsolute path = true) (hd : d.Extends d')
    (hu : user'.superuser = user.superuser) (hv : ∀ k, r = .vacant k → d'.lookup k = none)
    (h : d.locate user purpose path = .ok r) : d'.locate user' purpose path = .ok r :=
  locate_of_walk ha (fits_of_locate h)
    (walk_again hd hu hv (Nat.le_refl linkLimit) (locate_absolute ha h))

theorem entered_of_enter (ha : Path.isAbsolute path = true) (h : d.enter user path = .ok place) :
    ∃ e, d.Entered user path place e := by
  unfold enter at h
  split at h
  · cases h
  · cases h
  · rename_i l serials hr
    exact absurd (locate_absolute ha hr) walk_ne_removed
  · rename_i l hr
    split at h
    · cases h
    rename_i e he
    split at h
    · cases h
    rename_i hdir
    split at h
    · cases h
    rename_i hsearch
    cases h
    exact ⟨e, hr, locate_absolute ha hr, he, by simpa using hdir, by simpa using hsearch, rfl, rfl,
      rfl⟩

theorem Entered.enter {e : Entry} (h : d.Entered user path place e) :
    d.enter user path = .ok place := by
  rw [Disk.enter, h.located]
  dsimp only
  rw [h.found]
  simp only [h.isDirectory, h.searched, Bool.not_true, Bool.false_eq_true, if_false]
  rw [← h.serials, ← h.superuser, ← h.mask]

theorem Entered.find {e : Entry} (h : d.Entered user path place e) :
    d.find user path = .ok (place.location, e) := by
  rw [Disk.find, h.located]
  dsimp only
  rw [h.found]

/-- Whoever is in a directory gets there again along the same path. -/
theorem Entered.again {e : Entry} (h : d.Entered user path place e)
    (ha : Path.isAbsolute path = true) (hd : d.Extends d') : d'.Entered place path place e := by
  obtain ⟨n, -, hl⟩ := leads_of_walk h.walked
  have hlineage : d'.lineage place.location = d.lineage place.location :=
    hd.lineage (rooted_of_leads hl trivial) h.found
  have hlocated : d'.locate place .inspect path = .ok (.entry place.location) :=
    locate_again ha hd h.superuser (fun k hk => by cases hk) h.located
  refine ⟨hlocated, locate_absolute ha hlocated, hd _ _ h.found, h.isDirectory, ?_, ?_, rfl, rfl⟩
  · rw [permits_congr h.superuser]
    exact h.searched
  · rw [hlineage]
    exact h.serials

end CommandShell.Disk
