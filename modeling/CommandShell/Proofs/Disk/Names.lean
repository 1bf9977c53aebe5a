import CommandShell.Proofs.Disk.Again
import CommandShell.Proofs.Disk.Undisturbed
import CommandShell.Proofs.Path.Length
/-! Absolute paths as names of the place where a process stands. -/
namespace CommandShell.Disk

variable {d d' : Disk} {user p q : Place} {purpose : Purpose} {path : Text}
  {here : Location} {names : List Text} {r : Reached}

/-- Whoever may go everywhere gets to this very directory along the path. -/
structure Names (d : Disk) (path : Text) (p : Place) : Prop where
  walk : d.walk { p with superuser := true } .inspect linkLimit [] (Path.segments path) =
    .ok (.entry p.location)
  holds : d.holds p = true
  isDirectoryAt : d.IsDirectoryAt p.location

theorem holds_iff : d.holds p = true ↔
    ∃ e, d.lookup p.location = some e ∧ p.serials.head? = some e.serial := by
  simp [holds, isAt, Option.any_eq_true]

theorem Names.leads (h : d.Names path p) :
    ∃ n, n ≤ linkLimit ∧ d.Leads n [] (Path.segments path) p.location :=
  leads_of_walk h.walk

theorem names_of_leads {n : Nat} (hl : d.Leads n [] (Path.segments path) p.location)
    (hn : n ≤ linkLimit) (hh : d.holds p = true) (hd : d.IsDirectoryAt p.location) :
    d.Names path p :=
  ⟨walk_of_leads hl hn rfl, hh, hd⟩

theorem Names.undisturbed (h : d.Names path p) (hu : d.Undisturbed d') : d'.Names path p := by
  obtain ⟨n, hn, hl⟩ := h.leads
  have hh : d'.holds p = true := by
    obtain ⟨e, he, hserial⟩ := holds_iff.1 h.holds
    obtain ⟨f, hf, hdir⟩ := h.isDirectoryAt
    cases he.symm.trans hf
    obtain ⟨e', he', hserial', -⟩ := hu.directory he hdir
    exact holds_iff.2 ⟨e', he', by rw [hserial', hserial]⟩
  exact names_of_leads (hu.leads hl h.isDirectoryAt) hn hh (hu.isDirectoryAt h.isDirectoryAt)

/-- The way of a relative path from a directory is its way from where the directory's path leads. -/
theorem Names.walk_join (h : d.Names path p) (hpath : path ≠ []) :
    ∃ n, n ≤ linkLimit ∧ ∀ (user : Place) (purpose : Purpose) (t : Text),
      t ≠ [] → Path.isAbsolute t = false →
        d.walk user purpose linkLimit [] (Path.segments (Path.join path t)) =
            d.walk user purpose (linkLimit - n) p.location (Path.segments t) ∨
          Barred user
            (d.walk user purpose linkLimit [] (Path.segments (Path.join path t))) := by
  obtain ⟨n, hn, hl⟩ := h.leads
  refine ⟨n, hn, fun user purpose t ht hr => ?_⟩
  rw [Path.segments_join hpath hr]
  exact walk_append (leads_stem hl) hn (Or.inr (Path.exists_ne_nil_of_relative ht hr))

/-- What is found at a relative path from a directory is found from the place that the directory's
path names. -/
theorem Names.locate_of_join {t : Text} (h : d.Names path p) (hpath : Path.isAbsolute path = true)
    (ht : t ≠ []) (hr : Path.isAbsolute t = false)
    (hl : d.locate p purpose (Path.join path t) = .ok r) : d.locate p purpose t = .ok r := by
  have hnil : path ≠ [] := by
    rintro rfl
    cases hpath
  obtain ⟨front, hjoin⟩ : ∃ front, Path.join path t = front ++ t := by
    rw [Path.join_eq, if_neg (by simp [hr])]
    split
    · exact ⟨_, rfl⟩
    · exact ⟨_, rfl⟩
  unfold locate at hl ⊢
  split at hl
  · cases hl
  rename_i hzero
  split at hl
  · cases hl
  split at hl
  · cases hl
  rename_i hlong
  rw [hjoin] at hzero hlong
  rw [if_neg fun hz => hzero (List.mem_append_right front hz), if_neg ht, if_neg fun hlen => hlong
    (Nat.le_trans hlen (by rw [Path.byteLength_append]; exact Nat.le_add_left _ _))]
  dsimp only at hl ⊢
  rw [if_pos (Path.isAbsolute_join hpath t)] at hl
  rw [if_neg (by simp [hr]), if_pos h.holds]
  obtain ⟨n, -, hwalk⟩ := h.walk_join hnil
  have hok := ok_of_mapError hl
  have hshort : d.walk p purpose linkLimit p.location (Path.segments t) = .ok r := by
    rcases hwalk p purpose t ht hr with hw | ⟨-, hw⟩
    · rw [hok] at hw
      exact walk_mono (Nat.sub_le _ _) hw.symm
    · rw [hok] at hw
      cases hw
  rw [hshort]
  rfl

theorem head?_lineage {l : Location} {e : Entry} (h : d.lookup l = some e) :
    (d.lineage l).head? = some e.serial := by
  cases l with
  | nil => simp [lineage, h]
  | cons n l => simp [lineage, h]

/-- An absolute path names the place of a process that enters its directory. -/
theorem names_of_enter (ha : Path.isAbsolute path = true) (h : d.enter user path = .ok p) :
    d.Names path p := by
  obtain ⟨e, he⟩ := entered_of_enter ha h
  obtain ⟨n, hn, hl⟩ := leads_of_walk he.walked
  have hserial : p.serials.head? = some e.serial := by
    rw [he.serials]
    exact head?_lineage he.found
  exact names_of_leads hl hn (holds_iff.2 ⟨e, he.found, hserial⟩) ⟨e, he.found, he.isDirectory⟩

/-- One path names one place. -/
theorem Names.unique (h : d.Names path p) (h' : d.Names path q) :
    p.location = q.location ∧ p.serials.head? = q.serials.head? := by
  obtain ⟨n, -, hl⟩ := h.leads
  obtain ⟨m, -, hl'⟩ := h'.leads
  have hsame : p.location = q.location := leads_unique hl hl'
  obtain ⟨e, he, hserial⟩ := holds_iff.1 h.holds
  obtain ⟨e', he', hserial'⟩ := holds_iff.1 h'.holds
  rw [← hsame] at he'
  cases he.symm.trans he'
  exact ⟨hsame, hserial.trans hserial'.symm⟩

end CommandShell.Disk
