import CommandShell.Proofs.Disk.Agrees
/-! What becomes of a disk when a path is opened for new content and leads to a plain file, or is
free for one: that file is empty, and nothing else has changed. -/
namespace CommandShell.Disk

variable {d d' : Disk} {user : Place} {path : Text} {n : Nat} {k l : Location}

/-- The path leads to the file of that number, or a new file of that number is where it leads. The
file is empty. -/
inductive Emptied (user : Place) (path : Text) (d : Disk) : Nat → Disk → Prop
  | file {l : Location} {e : Entry} (hl : d.locate user .create path = .ok (.entry l))
      (he : d.lookup l = some e) (hn : e.node = .file) :
      Emptied user path d e.serial (d.refill e.serial [])
  | created {l : Location} (mode : Nat) (hl : d.locate user .create path = .ok (.vacant l)) :
      Emptied user path d d.next ((d.put l mode .file).refill d.next [])

/-- Where the path leads there is an entry, or there is room for one. -/
def LeadsTo (d : Disk) (user : Place) (path : Text) (k : Location) : Prop :=
  d.locate user .create path = .ok (.entry k) ∨ d.locate user .create path = .ok (.vacant k)

theorem emptied_of_openFile
    (h : d.openFile user .truncate path = .ok (d', ⟨.content n, 0, false, .writing⟩)) :
    Emptied user path d n d' := by
  unfold openFile at h
  split at h
  · cases h
  · cases h
  · rename_i l hl
    unfold create at h
    split at h
    · cases h
    · split at h
      · cases h
        exact .created _ hl
      · cases h
  · rename_i l hl
    split at h
    · cases h
    · rename_i e he
      unfold reopen at h
      split at h
      · cases h
      · cases h
      · cases h
      · split at h <;> cases h
      · split at h
        · cases h
          exact .file hl he ‹_›
        · cases h

theorem lookup_put_self (d : Disk) (l : Location) (mode : Nat) (node : Node) :
    (d.put l mode node).lookup l = some ⟨d.next, mode, node⟩ := by
  rw [lookup, put, List.lookup_eq_some_iff]
  refine ⟨d.entries.filter (·.1 != l), [], rfl, fun p hp => ?_⟩
  rw [bne_comm]
  exact (List.mem_filter.1 hp).2

theorem lookup_put_of_ne (mode : Nat) (node : Node) (h : k ≠ l) :
    (d.put l mode node).lookup k = d.lookup k := by
  have hkl : (k == l) = false := beq_false_of_ne h
  unfold lookup put
  dsimp only
  generalize d.entries = entries
  induction entries with
  | nil => rw [List.filter_nil, List.nil_append, List.lookup_cons, hkl]
  | cons p entries ih =>
    obtain ⟨j, e⟩ := p
    by_cases hj : j = l
    · subst hj
      simp [List.lookup_cons, hkl, ih]
    · simp [List.lookup_cons, hj, ih]

namespace Emptied

theorem content_self (h : Emptied user path d n d') : d'.content n = [] := by
  cases h with
  | file hl he hn => exact content_refill_self d _ []
  | created mode hl => exact content_refill_self _ _ []

theorem content_of_ne {m : Nat} (h : Emptied user path d n d') (hm : m ≠ n) :
    d'.content m = d.content m := by
  cases h with
  | file hl he hn => exact content_refill_of_ne d [] hm
  | created mode hl => exact content_refill_of_ne _ [] hm

/-- At most one entry is new: a file, where the path leads. -/
theorem lookup (h : Emptied user path d n d') (k : Location) :
    d'.lookup k = d.lookup k ∨
      d.lookup k = none ∧ d.locate user .create path = .ok (.vacant k) ∧
        ∃ mode, d'.lookup k = some ⟨n, mode, .file⟩ := by
  cases h with
  | file hl he hn => exact Or.inl rfl
  | created mode hl =>
    rename_i l
    by_cases hk : k = l
    · subst hk
      exact Or.inr ⟨lookup_of_locate_vacant hl, hl, mode, lookup_put_self d k mode .file⟩
    · exact Or.inl (lookup_put_of_ne mode .file hk)

/-- The file is where the path led. -/
theorem place (h : Emptied user path d n d') :
    ∃ k mode, d.LeadsTo user path k ∧ d'.lookup k = some ⟨n, mode, .file⟩ := by
  cases h with
  | file hl he hn =>
    rename_i l e
    obtain ⟨serial, mode, node⟩ := e
    obtain rfl : node = .file := hn
    exact ⟨l, mode, Or.inl hl, he⟩
  | created mode hl => exact ⟨_, mode, Or.inr hl, lookup_put_self d _ mode .file⟩

theorem keeps (h : Emptied user path d n d') {k : Location} {e : Entry}
    (he : d.lookup k = some e) : d'.lookup k = some e := by
  rcases h.lookup k with hk | ⟨hk, -⟩
  · exact hk.trans he
  · rw [hk] at he
    cases he

end Emptied
end CommandShell.Disk

namespace CommandShell

/-- The target of a stream: none, or a path that can be opened and leads to a plain file or to a
free place for one. The file of that number is empty afterwards. -/
inductive Provided (user : Place) (currentDir : Text) (d : Disk) :
    Option Text → Option Nat → Disk → Prop
  | absent : Provided user currentDir d none none d
  | opened {t : Text} {n : Nat} {d' : Disk}
      (ho : d.openFile user .truncate (Path.join currentDir t) =
        .ok (d', ⟨.content n, 0, false, .writing⟩)) :
      Provided user currentDir d (some t) (some n) d'

namespace Provided

variable {user : Place} {currentDir : Text} {d d' : Disk} {target : Option Text} {file : Option Nat}

theorem of_none (h : Provided user currentDir d none file d') : file = none ∧ d' = d := by
  cases h
  exact ⟨rfl, rfl⟩

theorem content {m : Nat} (h : Provided user currentDir d target file d') :
    d'.content m = if file = some m then [] else d.content m := by
  cases h with
  | absent => rfl
  | opened ho =>
    rename_i t n
    have he := Disk.emptied_of_openFile ho
    by_cases hm : m = n
    · rw [hm, if_pos rfl, he.content_self]
    · rw [if_neg fun h => hm (Option.some.inj h).symm, he.content_of_ne hm]

theorem lookup (h : Provided user currentDir d target file d') (k : Location) :
    d'.lookup k = d.lookup k ∨
      d.lookup k = none ∧ ∃ t n mode, target = some t ∧ file = some n ∧
        d.locate user .create (Path.join currentDir t) = .ok (.vacant k) ∧
        d'.lookup k = some ⟨n, mode, .file⟩ := by
  cases h with
  | absent => exact Or.inl rfl
  | opened ho =>
    rcases (Disk.emptied_of_openFile ho).lookup k with hk | ⟨hfree, hl, mode, hk⟩
    · exact Or.inl hk
    · exact Or.inr ⟨hfree, _, _, mode, rfl, rfl, hl, hk⟩

theorem keeps (h : Provided user currentDir d target file d') {k : Location} {e : Entry}
    (he : d.lookup k = some e) : d'.lookup k = some e := by
  cases h with
  | absent => exact he
  | opened ho => exact (Disk.emptied_of_openFile ho).keeps he

theorem place {n : Nat} (h : Provided user currentDir d target (some n) d') :
    ∃ t k mode, target = some t ∧ d.LeadsTo user (Path.join currentDir t) k ∧
      d'.lookup k = some ⟨n, mode, .file⟩ := by
  cases h with
  | opened ho =>
    obtain ⟨k, mode, hl, hk⟩ := (Disk.emptied_of_openFile ho).place
    exact ⟨_, k, mode, rfl, hl, hk⟩

end Provided

end CommandShell
