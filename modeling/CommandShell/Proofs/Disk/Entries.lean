import CommandShell.Disk.OpenFile
import CommandShell.Proofs.Disk.Leads
/-! What the shell does to a disk by itself leaves every entry where it is. -/
namespace CommandShell.Disk

variable {d d' d'' : Disk} {user : Place} {l : Location}

/-- Every entry is still there as it was. There may be new ones, and other contents. -/
def Extends (d d' : Disk) : Prop := ∀ l e, d.lookup l = some e → d'.lookup l = some e

theorem Extends.refl (d : Disk) : d.Extends d := fun _ _ h => h

theorem Extends.trans (h : d.Extends d') (h' : d'.Extends d'') : d.Extends d'' :=
  fun l e he => h' l e (h l e he)

theorem extends_refill (d : Disk) (n : Nat) (bs : Bytes) : d.Extends (d.refill n bs) :=
  fun _ _ h => h

theorem extends_put (mode : Nat) (node : Node) (h : d.lookup l = none) :
    d.Extends (d.put l mode node) := by
  intro k e he
  have hk : k ≠ l := by
    rintro rfl
    simp [h] at he
  rw [lookup, List.lookup_eq_some_iff] at he
  obtain ⟨before, after, hsplit, hbefore⟩ := he
  rw [lookup, put, List.lookup_eq_some_iff]
  refine ⟨before.filter (·.1 != l), after.filter (·.1 != l) ++ [(l, ⟨d.next, mode, node⟩)], ?_, ?_⟩
  · simp [hsplit, hk]
  · intro p hp
    exact hbefore p (List.mem_filter.1 hp).1

theorem extends_write (d : Disk) (f : OpenFile) (bs : Bytes) : d.Extends (d.write f bs).1 := by
  unfold write
  split
  · exact .refl d
  · split
    · exact .refl d
    · exact .refl d
    · exact .refl d
    · exact extends_refill d _ _

theorem extends_reopen {how : Opening} {e : Entry} {f : OpenFile}
    (h : d.reopen user how e = .ok (d', f)) : d.Extends d' := by
  unfold reopen at h
  split at h
  · cases h
  · cases h
  · cases h
  · split at h
    · cases h
      exact .refl d
    · cases h
  · split at h
    · cases h
      split
      · exact extends_refill d _ _
      · exact .refl d
    · cases h

theorem extends_create {how : Opening} {f : OpenFile} (hl : d.lookup l = none)
    (h : d.create user how l = .ok (d', f)) : d.Extends d' := by
  unfold create at h
  split at h
  · cases h
  · split at h
    · cases h
      exact (extends_put _ _ hl).trans (extends_refill _ _ _)
    · cases h

/-- A file is created only where nothing was found. -/
theorem extends_openFile {how : Opening} {path : Text} {f : OpenFile}
    (h : d.openFile user how path = .ok (d', f)) : d.Extends d' := by
  unfold openFile at h
  split at h
  · cases h
  · cases h
  · rename_i l hl
    exact extends_create (lookup_of_locate_vacant hl) h
  · split at h
    · cases h
    · exact extends_reopen h

end CommandShell.Disk
