import CommandShell.Proofs.Disk.Again
import CommandShell.Proofs.Path.Length
/-! Where there are no links, a path leads where its text says, and each directory has one path of
plain names. Normalizing a path keeps where it leads. -/
namespace CommandShell.Disk

variable {d : Disk} {user place : Place} {purpose : Purpose} {p q name : Text}
  {names rest : List Text} {here l : Location} {n budget : Nat} {r : Reached}
  {jump : Location → List Text → Except Errno Reached}

/-- No entry is a link. -/
def Unlinked (d : Disk) : Prop := ∀ l e t, d.lookup l = some e → e.node ≠ .link t

/-- Walked name by name, whoever walks, the path ends in a directory. -/
structure EndsIn (d : Disk) (here : Location) (path : Text) (l : Location) : Prop where
  leads : ∃ n, d.Leads n (if Path.isAbsolute path then [] else here) (Path.segments path) l
  isDirectoryAt : d.IsDirectoryAt l

/-- The user may enter the directory: there is an absolute path along which the system allows it. -/
def Admits (d : Disk) (user : Place) (l : Location) : Prop :=
  ∃ path place, Path.isAbsolute path = true ∧ d.enter user path = .ok place ∧ place.location = l

/-- All directories above the location are there and let the user through. -/
inductive Passable (d : Disk) (user : Place) : Location → Prop
  | root : Passable d user []
  | down {l : Location} {name : Text} {e child : Entry} (hp : Passable d user l)
      (he : d.lookup l = some e) (hd : e.isDirectory = true)
      (hs : user.permits e .search = true) (hn : IsName name)
      (hc : d.lookup (name :: l) = some child) : Passable d user (name :: l)

theorem unlinked_of_entries (h : ∀ p ∈ d.entries, p.2.node = .directory ∨ p.2.node = .file) :
    d.Unlinked := by
  intro l e t he hlink
  rw [lookup, List.lookup_eq_some_iff] at he
  obtain ⟨before, after, hsplit, -⟩ := he
  have hmem : (l, e) ∈ d.entries := by
    rw [hsplit]
    exact List.mem_append_right _ (List.mem_cons_self ..)
  rcases h (l, e) hmem with hnode | hnode
  · cases hlink.symm.trans hnode
  · cases hlink.symm.trans hnode

theorem Passable.tail (h : d.Passable user l) : d.Passable user l.tail := by
  cases h with
  | root => exact .root
  | down hp he hd hs hn hc => exact hp

theorem Passable.isDirectoryAt_root (h : d.Passable user l) (hd : d.IsDirectoryAt l) :
    d.IsDirectoryAt [] := by
  induction h with
  | root => exact hd
  | down hp he hdir hs hn hc ih => exact ih ⟨_, he, hdir⟩

/-- A walk that goes on from a directory by a name was let through it. -/
theorem searched_of_advance (hn : name ≠ [])
    (h : d.advance user purpose jump here (name :: rest) = .ok r) :
    ∃ e, d.lookup here = some e ∧ e.isDirectory = true ∧ user.permits e .search = true := by
  rw [advance] at h
  split at h
  · cases h
  rename_i e he
  split at h
  · cases h
  rename_i hd
  split at h
  · cases h
  rename_i hs
  exact ⟨e, he, by simpa using hd, by simpa using hs⟩

/-- A walk lands where the text says, and every directory above lets the user through. -/
theorem passable_of_advance (hu : d.Unlinked) (hp : d.Passable user here)
    (h : d.advance user purpose jump here names = .ok (.entry l)) :
    d.Passable user l ∧ l = Path.landing here names := by
  induction names generalizing here with
  | nil =>
    have he : here = l := by simpa [advance] using h
    exact ⟨he ▸ hp, he.symm⟩
  | cons name rest ih =>
    obtain ⟨-, ⟨hn, ha⟩ | ⟨rfl, ha⟩ | ⟨hn, ⟨-, -, hr⟩ | ⟨child, hc, ⟨target, hlink, -⟩ | ⟨-, ha⟩⟩⟩⟩ :=
      advance_cons h
    · rw [Path.landing, if_pos hn]
      exact ih hp ha
    · rw [Path.landing, if_neg (by decide), if_pos rfl]
      exact ih hp.tail ha
    · cases hr
    · exact absurd hlink (hu _ _ _ hc)
    · rw [Path.landing, if_neg (not_or.2 ⟨hn.ne_nil, hn.ne_dot⟩), if_neg hn.ne_dots]
      obtain ⟨e, he, hd, hs⟩ := searched_of_advance hn.ne_nil h
      exact ih (.down hp he hd hs hn hc) ha

theorem passable_of_walk (hu : d.Unlinked)
    (h : d.walk user purpose budget [] names = .ok (.entry l)) :
    d.Passable user l ∧ l = Path.landing [] names := by
  rw [walk_eq_advance] at h
  exact passable_of_advance hu .root h

/-- There are no links to follow on the way. -/
theorem Leads.eq_landing (h : d.Leads n here names l) (hu : d.Unlinked) :
    n = 0 ∧ l = Path.landing here names := by
  induction h with
  | done here => exact ⟨rfl, rfl⟩
  | stay hd hn hl ih =>
    rw [Path.landing, if_pos hn]
    exact ih
  | up hd hl ih =>
    rw [Path.landing, if_neg (by decide), if_pos rfl]
    exact ih
  | down hd hn hc hc' hl ih =>
    rw [Path.landing, if_neg (not_or.2 ⟨hn.ne_nil, hn.ne_dot⟩), if_neg hn.ne_dots]
    exact ih
  | follow hd hn hc hc' hl ih => exact absurd hc' (hu _ _ _ hc)

theorem walk_nil_cons (hd : d.IsDirectoryAt here) :
    d.walk user purpose budget here ([] :: rest) = d.walk user purpose budget here rest := by
  obtain ⟨e, he, hdir⟩ := hd
  rw [walk_eq_advance, advance, he]
  simp only [hdir, Bool.not_true, Bool.false_eq_true, if_false, if_true]
  rw [walk_eq_advance]

theorem walk_down {e child : Entry} (hu : d.Unlinked) (he : d.lookup here = some e)
    (hd : e.isDirectory = true) (hs : user.permits e .search = true) (hn : IsName name)
    (hc : d.lookup (name :: here) = some child) :
    d.walk user .inspect budget here (name :: rest) =
      d.walk user .inspect budget (name :: here) rest := by
  have hlong : ¬ nameLimit < byteLength name := Nat.not_lt.2 hn.short
  rw [walk_eq_advance, walk_eq_advance, advance, he]
  simp only [hd, hs, hn.ne_nil, hn.ne_dot, hn.ne_dots, hlong, hc, Bool.not_true, Bool.false_eq_true,
    reduceCtorEq, false_and, if_false]
  split
  · exact absurd ‹_› (hu _ _ _ hc)
  · rfl

/-- The names from the root down are walked one by one. -/
theorem walk_reverse (hu : d.Unlinked) (hp : d.Passable user l) (rest : List Text) :
    d.walk user .inspect budget [] (l.reverse ++ rest) = d.walk user .inspect budget l rest := by
  induction hp generalizing rest with
  | root => rfl
  | down hp he hd hs hn hc ih =>
    rw [List.reverse_cons, List.append_assoc, List.singleton_append, ih]
    exact walk_down hu he hd hs hn hc

theorem walk_ofLocation (hu : d.Unlinked) (hp : d.Passable user l) (hd : d.IsDirectoryAt l)
    (hl : ∀ n ∈ l, Path.IsPlain n) :
    d.walk user .inspect budget [] (Path.segments (Path.ofLocation l)) = .ok (.entry l) := by
  have hend : ∀ here, d.walk user .inspect budget here [] = .ok (.entry here) := by
    intro here
    rw [walk_eq_advance, advance]
  have hroot := hp.isDirectoryAt_root hd
  rw [Path.segments_ofLocation hl, walk_nil_cons hroot]
  split
  · rename_i hnil
    rw [walk_nil_cons hroot, hend, hnil]
  · have hdown : d.walk user .inspect budget [] (l.reverse ++ []) =
        d.walk user .inspect budget l [] := walk_reverse hu hp []
    rwa [List.append_nil, hend] at hdown

/-- Someone whom every directory lets through. -/
def unhindered : Place := { location := [], serials := [], superuser := true }

theorem endsIn_of_walk
    (h : d.walk unhindered .inspect linkLimit (if Path.isAbsolute p then [] else here)
      (Path.segments p) = .ok (.entry l)) (hd : d.IsDirectoryAt l) : d.EndsIn here p l := by
  obtain ⟨n, -, hl⟩ := leads_of_walk h
  exact ⟨⟨n, hl⟩, hd⟩

theorem EndsIn.of_isAbsolute (h : d.EndsIn here p l) (ha : Path.isAbsolute p = true)
    (here' : Location) : d.EndsIn here' p l := by
  obtain ⟨⟨n, hl⟩, hd⟩ := h
  rw [if_pos ha] at hl
  refine ⟨⟨n, ?_⟩, hd⟩
  rw [if_pos ha]
  exact hl

/-- What can be walked at all ends where its text says, below directories only. -/
theorem passable_of_leads (hu : d.Unlinked) (h : d.Leads n [] names l) :
    d.Passable unhindered l ∧ l = Path.landing [] names :=
  passable_of_walk hu (walk_of_leads h (Nat.le_refl n) rfl)

/-- A normalized path ends where the path ends. -/
theorem EndsIn.normalize (hu : d.Unlinked) (ha : Path.isAbsolute p = true) (h : d.EndsIn [] p l) :
    d.EndsIn [] (Path.normalize p) l ∧ Path.normalize p = Path.ofLocation l := by
  obtain ⟨⟨n, hl⟩, hd⟩ := h
  rw [if_pos ha] at hl
  obtain ⟨hp, he⟩ := passable_of_leads hu hl
  obtain ⟨hplain, hnormal⟩ := Path.normalize_of_landing ha he
  have hwalk : d.walk unhindered .inspect 0 [] (Path.segments (Path.ofLocation l)) =
      .ok (.entry l) := walk_ofLocation hu hp hd hplain
  obtain ⟨m, -, hm⟩ := leads_of_walk hwalk
  refine ⟨⟨⟨m, ?_⟩, hd⟩, hnormal⟩
  rwa [hnormal, if_pos (Path.isAbsolute_ofLocation l)]

/-- No other path of plain names ends there. -/
theorem EndsIn.eq_ofLocation (hu : d.Unlinked) (hq : Path.IsPlainPath q) (h : d.EndsIn [] q l) :
    q = Path.ofLocation l := by
  obtain ⟨n, hl⟩ := h.leads
  obtain ⟨-, he⟩ := hl.eq_landing hu
  rw [if_pos hq.isAbsolute] at he
  rw [he]
  exact hq.eq_ofLocation

/-- Who is let in along a path is let in along the normalized one. -/
theorem Entered.normalize {e : Entry} (h : d.Entered user p place e) (hu : d.Unlinked)
    (ha : Path.isAbsolute p = true) :
    d.Entered user (Path.normalize p) place e ∧
      Path.normalize p = Path.ofLocation place.location := by
  obtain ⟨hp, he⟩ := passable_of_walk hu h.walked
  obtain ⟨hplain, hnormal⟩ := Path.normalize_of_landing ha he
  have hwalk : d.walk user .inspect linkLimit [] (Path.segments (Path.normalize p)) =
      .ok (.entry place.location) := by
    rw [hnormal]
    exact walk_ofLocation hu hp ⟨e, h.found, h.isDirectory⟩ hplain
  have hfits : '\x00' ∉ Path.normalize p ∧ byteLength (Path.normalize p) < pathLimit := by
    obtain ⟨hzero, hshort⟩ := fits_of_locate h.located
    refine ⟨fun hm => hzero (Path.mem_of_mem_normalize ha (by decide) hm), ?_⟩
    exact Nat.lt_of_le_of_lt (Path.byteLength_normalize_le ha) hshort
  have hlocated := locate_of_walk (Path.isAbsolute_normalize ha) hfits hwalk
  exact ⟨{ h with located := hlocated, walked := hwalk }, hnormal⟩

/-- A directory that lets someone in does so along its path of plain names. -/
theorem Admits.enter (hu : d.Unlinked) (h : d.Admits user l) :
    ∃ place, place.location = l ∧ place.serials = d.lineage l ∧
      d.isDirectory user (Path.ofLocation l) = true ∧
      d.enter user (Path.ofLocation l) = .ok place := by
  obtain ⟨q, place, ha, he, rfl⟩ := h
  obtain ⟨e, hentered⟩ := entered_of_enter ha he
  obtain ⟨hagain, hnormal⟩ := hentered.normalize hu ha
  rw [hnormal] at hagain
  refine ⟨place, rfl, hentered.serials, ?_, hagain.enter⟩
  rw [isDirectory, hagain.find]
  exact hentered.isDirectory

/-- A relative path is walked on from where the directory's path ends. -/
theorem EndsIn.join {base : Text} {k : Location} (hb : Path.isAbsolute base = true)
    (hbase : d.EndsIn [] base k) (hp : Path.isAbsolute p = false) (h : d.EndsIn k p l) :
    d.EndsIn [] (Path.join base p) l := by
  obtain ⟨n, hn⟩ := hbase.leads
  obtain ⟨m, hm⟩ := h.leads
  rw [if_pos hb] at hn
  rw [if_neg (by simp [hp])] at hm
  refine ⟨⟨n + m, ?_⟩, h.isDirectoryAt⟩
  rw [if_pos (Path.isAbsolute_join hb p), Path.segments_join (Path.ne_nil_of_isAbsolute hb) hp]
  exact (leads_stem hn).append hm

end CommandShell.Disk
