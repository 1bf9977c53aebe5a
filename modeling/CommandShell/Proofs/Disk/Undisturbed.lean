import CommandShell.Proofs.Disk.Entries
/-! Where no directory and no link is touched, names lead where they led. -/
namespace CommandShell.Disk

variable {d d' : Disk} {here l : Location} {names : List Text} {n : Nat}

/-- Every directory and every link is still the same one at the same location. Permissions may
differ, and files too. -/
def Undisturbed (d d' : Disk) : Prop :=
  ∀ l e, d.lookup l = some e → (e.node = .directory ∨ ∃ t, e.node = .link t) →
    ∃ e', d'.lookup l = some e' ∧ e'.serial = e.serial ∧ e'.node = e.node

theorem Extends.undisturbed (h : d.Extends d') : d.Undisturbed d' :=
  fun l e he _ => ⟨e, h l e he, rfl, rfl⟩

theorem undisturbed_of_entries (h : ∀ p ∈ d.entries, p.2.node = .file ∨ d'.lookup p.1 = some p.2) :
    d.Undisturbed d' := by
  intro l e he hnode
  rw [lookup, List.lookup_eq_some_iff] at he
  obtain ⟨before, after, hsplit, -⟩ := he
  have hmem : (l, e) ∈ d.entries := by
    rw [hsplit]
    exact List.mem_append_right _ (List.mem_cons_self ..)
  rcases h (l, e) hmem with hfile | hsame
  · rw [hfile] at hnode
    rcases hnode with hnode | ⟨t, hnode⟩ <;> cases hnode
  · exact ⟨e, hsame, rfl, rfl⟩

theorem Undisturbed.directory (h : d.Undisturbed d') {e : Entry} (he : d.lookup l = some e)
    (hd : e.isDirectory = true) :
    ∃ e', d'.lookup l = some e' ∧ e'.serial = e.serial ∧ e'.isDirectory = true := by
  have hnode : e.node = .directory := of_decide_eq_true hd
  obtain ⟨e', he', hserial, hnode'⟩ := h l e he (Or.inl hnode)
  exact ⟨e', he', hserial, decide_eq_true (hnode'.trans hnode)⟩

theorem Undisturbed.isDirectoryAt (h : d.Undisturbed d') (hd : d.IsDirectoryAt l) :
    d'.IsDirectoryAt l := by
  obtain ⟨e, he, hdir⟩ := hd
  obtain ⟨e', he', -, hdir'⟩ := h.directory he hdir
  exact ⟨e', he', hdir'⟩

/-- On the way to a directory there are directories and links only. -/
theorem Undisturbed.leads (h : d.Undisturbed d') (hl : d.Leads n here names l)
    (hd : d.IsDirectoryAt l) : d'.Leads n here names l := by
  induction hl with
  | done here => exact .done here
  | stay hh hn hr ih => exact .stay (h.isDirectoryAt hh) hn (ih hd)
  | up hh hr ih => exact .up (h.isDirectoryAt hh) (ih hd)
  | down hh hn hc hc' hr ih =>
    obtain ⟨e, he, hdir⟩ := h.isDirectoryAt (isDirectoryAt_of_leads hr hd)
    have hnode : e.node = .directory := of_decide_eq_true hdir
    have hno : ∀ t, e.node ≠ .link t := by
      intro t ht
      rw [hnode] at ht
      cases ht
    exact .down (h.isDirectoryAt hh) hn he hno (ih hd)
  | follow hh hn hc hc' hr ih =>
    obtain ⟨e, he, -, hnode⟩ := h _ _ hc (Or.inr ⟨_, hc'⟩)
    exact .follow (h.isDirectoryAt hh) hn he (hnode.trans hc') (ih hd)

end CommandShell.Disk
