import CommandShell.Proofs.Disk.Leads
/-! A walk goes on from where its first names lead, with the links that are left to it. -/
namespace CommandShell.Disk

variable {d : Disk} {user : Place} {purpose : Purpose} {here l m : Location} {name : Text}
  {names rest : List Text} {n budget : Nat}

/-- What takes over at a link. -/
def pursue (d : Disk) (user : Place) (purpose : Purpose) :
    Nat → Location → List Text → Except Errno Reached
  | 0 => fun _ _ => .error .linkLoop
  | budget + 1 => d.walk user purpose budget

theorem walk_eq_advance (budget : Nat) (here : Location) (names : List Text) :
    d.walk user purpose budget here names =
      d.advance user purpose (d.pursue user purpose budget) here names := by
  cases budget <;> rfl

/-- The walk was stopped at a directory that the user may not search. -/
def Barred (user : Place) (r : Except Errno Reached) : Prop :=
  user.superuser = false ∧ r = .error .accessDenied

/-- Nothing is wrong with the end of such a path. -/
def Ends (purpose : Purpose) (names : List Text) : Prop :=
  purpose = .inspect ∨ ∃ name ∈ names, name ≠ []

theorem Ends.not_slash (h : Ends purpose rest) :
    ¬ (purpose = .create ∧ rest ≠ [] ∧ rest.all List.isEmpty = true) := by
  rintro ⟨rfl, -, hall⟩
  rcases h with h | ⟨name, hmem, hne⟩
  · cases h
  · exact hne (List.isEmpty_iff.1 (List.all_eq_true.1 hall name hmem))

theorem Ends.append (h : Ends purpose rest) (names : List Text) : Ends purpose (names ++ rest) := by
  rcases h with h | ⟨name, hmem, hne⟩
  · exact Or.inl h
  · exact Or.inr ⟨name, List.mem_append_right _ hmem, hne⟩

theorem superuser_eq_false {e : Entry} {r : Right} (h : ¬ user.permits e r = true) :
    user.superuser = false := by
  cases hs : user.superuser with
  | false => rfl
  | true =>
    refine absurd ?_ h
    simp [Place.permits, hs]

/-- One step of a walk, in a directory that may be searched. -/
theorem walk_cons (hd : d.IsDirectoryAt here) :
    Barred user (d.walk user purpose budget here (name :: rest)) ∨
      d.walk user purpose budget here (name :: rest) =
        if name = [] ∨ name = ['.'] then d.walk user purpose budget here rest
        else if name = ['.', '.'] then d.walk user purpose budget here.tail rest
        else if purpose = .create ∧ rest ≠ [] ∧ rest.all List.isEmpty then .error .isDirectory
        else if nameLimit < byteLength name then .error .nameTooLong
        else
          match d.lookup (name :: here) with
          | none => if rest = [] then .ok (.vacant (name :: here)) else .error .noEntry
          | some child =>
            match child.node with
            | .link target =>
              d.pursue user purpose budget (if Path.isAbsolute target then [] else here)
                (Path.segments target ++ rest)
            | _ => d.walk user purpose budget (name :: here) rest := by
  obtain ⟨e, he, hdir⟩ := hd
  simp only [walk_eq_advance]
  by_cases hs : user.permits e .search = true
  · refine Or.inr ?_
    rw [advance, he]
    simp only [hdir, hs, Bool.not_true, Bool.false_eq_true, if_false]
    by_cases hnil : name = []
    · exact (if_pos hnil).trans (if_pos (Or.inl hnil)).symm
    · refine (if_neg hnil).trans ?_
      by_cases hdot : name = ['.']
      · exact (if_pos hdot).trans (if_pos (Or.inr hdot)).symm
      · exact (if_neg hdot).trans (if_neg (not_or.2 ⟨hnil, hdot⟩)).symm
  · by_cases hnil : name = []
    · refine Or.inr ?_
      rw [advance, he]
      simp only [hdir, hnil, Bool.not_true, Bool.false_eq_true, if_false, if_true, true_or]
    · refine Or.inl ⟨superuser_eq_false hs, ?_⟩
      rw [advance, he]
      simp only [hdir, hs, hnil, Bool.not_true, Bool.not_false, Bool.false_eq_true, if_false,
        if_true]

/-- The rest of a path is walked from where its first names lead. -/
theorem walk_append (h : d.Leads n here names m) (hb : n ≤ budget) (he : Ends purpose rest) :
    d.walk user purpose budget here (names ++ rest) =
        d.walk user purpose (budget - n) m rest ∨
      Barred user (d.walk user purpose budget here (names ++ rest)) := by
  induction h generalizing budget with
  | done => exact Or.inl rfl
  | stay hd hn hr ih =>
    rw [List.cons_append]
    rcases walk_cons hd with hbar | hstep
    · exact Or.inr hbar
    · rw [hstep, if_pos hn]
      exact ih hb
  | up hd hr ih =>
    rw [List.cons_append]
    rcases walk_cons hd with hbar | hstep
    · exact Or.inr hbar
    · rw [hstep, if_neg (by simp), if_pos rfl]
      exact ih hb
  | down hd hn hc hc' hr ih =>
    rw [List.cons_append]
    rcases walk_cons hd with hbar | hstep
    · exact Or.inr hbar
    · rw [hstep, if_neg (not_or.2 ⟨hn.ne_nil, hn.ne_dot⟩), if_neg hn.ne_dots,
        if_neg (he.append _).not_slash, if_neg (Nat.not_lt.2 hn.short), hc]
      dsimp only
      split
      · exact absurd ‹_› (hc' _)
      · exact ih hb
  | follow hd hn hc hc' hr ih =>
    rw [List.cons_append]
    rcases walk_cons hd with hbar | hstep
    · exact Or.inr hbar
    · cases budget with
      | zero => exact absurd hb (Nat.not_succ_le_zero _)
      | succ budget =>
        rw [hstep, if_neg (not_or.2 ⟨hn.ne_nil, hn.ne_dot⟩), if_neg hn.ne_dots,
          if_neg (he.append _).not_slash, if_neg (Nat.not_lt.2 hn.short), hc]
        dsimp only
        rw [hc']
        dsimp only [pursue]
        rw [← List.append_assoc, Nat.succ_sub_succ]
        exact ih (Nat.le_of_succ_le_succ hb)

/-- Who is above all permissions gets to where the names lead. -/
theorem walk_of_leads (h : d.Leads n here names l) (hb : n ≤ budget)
    (hs : user.superuser = true) : d.walk user .inspect budget here names = .ok (.entry l) := by
  have he : Ends .inspect [] := Or.inl rfl
  rcases walk_append h hb he with hw | ⟨hbar, -⟩
  · rw [List.append_nil] at hw
    rw [hw, walk_eq_advance, advance]
  · rw [hs] at hbar
    cases hbar

/-- A walk from the root ends at something that is there. -/
theorem walk_ne_removed {serials : List Nat} :
    d.walk user purpose budget here names ≠ .ok (.removed l serials) := by
  have advance_ne : ∀ {jump : Location → List Text → Except Errno Reached},
      (∀ here names, jump here names ≠ .ok (.removed l serials)) → ∀ names here,
      d.advance user purpose jump here names ≠ .ok (.removed l serials) := by
    intro jump hjump names
    induction names with
    | nil => exact fun here h => by cases h
    | cons name rest ih =>
      intro here h
      obtain ⟨-, ⟨-, h⟩ | ⟨-, h⟩ | ⟨-, ⟨-, -, hr⟩ | ⟨child, -, ⟨target, -, h⟩ | ⟨-, h⟩⟩⟩⟩ :=
        advance_cons h
      · exact ih _ h
      · exact ih _ h
      · cases hr
      · exact hjump _ _ h
      · exact ih _ h
  induction budget generalizing here names with
  | zero => exact advance_ne (fun _ _ h => by cases h) names here
  | succ budget ih => exact advance_ne (fun _ _ => ih) names here

end CommandShell.Disk
