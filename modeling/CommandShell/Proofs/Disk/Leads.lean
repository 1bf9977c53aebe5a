import CommandShell.Disk.Walk
/-! Where a walk ends, apart from who walks: the names it meets, the links it follows. -/
namespace CommandShell.Disk

variable {d : Disk} {user user' : Place} {purpose : Purpose} {here l m : Location} {name : Text}
  {names rest : List Text} {r : Reached} {n k budget : Nat}
  {jump : Location → List Text → Except Errno Reached}

def IsDirectoryAt (d : Disk) (l : Location) : Prop :=
  ∃ e, d.lookup l = some e ∧ e.isDirectory = true

/-- A stretch of a path that is looked up, and not longer than names may be. -/
structure IsName (name : Text) : Prop where
  ne_nil : name ≠ []
  ne_dot : name ≠ ['.']
  ne_dots : name ≠ ['.', '.']
  short : byteLength name ≤ nameLimit

/-- The names lead from one location to another, over so many links. -/
inductive Leads (d : Disk) : Nat → Location → List Text → Location → Prop
  | done (here : Location) : Leads d 0 here [] here
  | stay {n : Nat} {here l : Location} {name : Text} {rest : List Text} (hd : d.IsDirectoryAt here)
      (hn : name = [] ∨ name = ['.']) (hl : Leads d n here rest l) :
      Leads d n here (name :: rest) l
  | up {n : Nat} {here l : Location} {rest : List Text} (hd : d.IsDirectoryAt here)
      (hl : Leads d n here.tail rest l) : Leads d n here (['.', '.'] :: rest) l
  | down {n : Nat} {here l : Location} {name : Text} {rest : List Text} {child : Entry}
      (hd : d.IsDirectoryAt here) (hn : IsName name) (hc : d.lookup (name :: here) = some child)
      (hc' : ∀ t, child.node ≠ .link t) (hl : Leads d n (name :: here) rest l) :
      Leads d n here (name :: rest) l
  | follow {n : Nat} {here l : Location} {name target : Text} {rest : List Text} {child : Entry}
      (hd : d.IsDirectoryAt here) (hn : IsName name) (hc : d.lookup (name :: here) = some child)
      (hc' : child.node = .link target)
      (hl : Leads d n (if Path.isAbsolute target then [] else here)
        (Path.segments target ++ rest) l) :
      Leads d (n + 1) here (name :: rest) l

theorem permits_congr (h : user'.superuser = user.superuser) (e : Entry) (right : Right) :
    user'.permits e right = user.permits e right := by
  rw [Place.permits, Place.permits, h]

/-- All that a walk can do with a name and still succeed. -/
theorem advance_cons (h : d.advance user purpose jump here (name :: rest) = .ok r) :
    d.IsDirectoryAt here ∧
      ((name = [] ∨ name = ['.']) ∧ d.advance user purpose jump here rest = .ok r ∨
        name = ['.', '.'] ∧ d.advance user purpose jump here.tail rest = .ok r ∨
        IsName name ∧
          (d.lookup (name :: here) = none ∧ rest = [] ∧ r = .vacant (name :: here) ∨
            ∃ child, d.lookup (name :: here) = some child ∧
              ((∃ target, child.node = .link target ∧
                  jump (if Path.isAbsolute target then [] else here) (Path.segments target ++ rest) =
                    .ok r) ∨
                (∀ t, child.node ≠ .link t) ∧
                  d.advance user purpose jump (name :: here) rest = .ok r))) := by
  rw [advance] at h
  split at h
  · cases h
  rename_i e he
  split at h
  · cases h
  rename_i hd
  refine ⟨⟨e, he, by simpa using hd⟩, ?_⟩
  split at h
  · exact Or.inl ⟨Or.inl ‹_›, h⟩
  rename_i hnil
  split at h
  · cases h
  split at h
  · exact Or.inl ⟨Or.inr ‹_›, h⟩
  rename_i hdot
  split at h
  · exact Or.inr (Or.inl ⟨‹_›, h⟩)
  rename_i hdots
  split at h
  · cases h
  split at h
  · cases h
  rename_i hshort
  refine Or.inr (Or.inr ⟨⟨hnil, hdot, hdots, Nat.le_of_not_lt hshort⟩, ?_⟩)
  split at h
  · rename_i hfree
    split at h
    · exact Or.inl ⟨hfree, ‹_›, by simpa using h.symm⟩
    · cases h
  · rename_i child hchild
    refine Or.inr ⟨child, hchild, ?_⟩
    split at h
    · exact Or.inl ⟨_, ‹_›, h⟩
    · exact Or.inr ⟨‹_›, h⟩

/-- The last name of a vacant location was looked for and not found. -/
theorem lookup_of_advance_vacant
    (hjump : ∀ here names, jump here names = .ok (.vacant l) → d.lookup l = none)
    (h : d.advance user purpose jump here names = .ok (.vacant l)) : d.lookup l = none := by
  induction names generalizing here with
  | nil => simp [advance] at h
  | cons name rest ih =>
    obtain ⟨-, ⟨-, h⟩ | ⟨-, h⟩ | ⟨-, ⟨hfree, -, hr⟩ | ⟨child, -, ⟨target, -, h⟩ | ⟨-, h⟩⟩⟩⟩ :=
      advance_cons h
    · exact ih h
    · exact ih h
    · cases hr
      exact hfree
    · exact hjump _ _ h
    · exact ih h

theorem lookup_of_walk_vacant (h : d.walk user purpose budget here names = .ok (.vacant l)) :
    d.lookup l = none := by
  induction budget generalizing here names with
  | zero => exact lookup_of_advance_vacant (fun _ _ h => by cases h) h
  | succ budget ih => exact lookup_of_advance_vacant (fun _ _ h => ih h) h

theorem lookup_of_walkRemoved_vacant {serials : List Nat}
    (h : d.walkRemoved user purpose here serials names = .ok (.vacant l)) : d.lookup l = none := by
  induction names generalizing here serials with
  | nil => cases h
  | cons name rest ih =>
    unfold walkRemoved at h
    split at h
    · exact ih h
    · split at h
      · split at h
        · exact lookup_of_walk_vacant h
        · exact ih h
      · split at h <;> cases h

theorem ok_of_mapError {ε ε' α : Type} {f : ε → ε'} {x : Except ε α} {a : α}
    (h : x.mapError f = .ok a) : x = .ok a := by
  cases x with
  | error e => cases h
  | ok b =>
    cases h
    rfl

theorem lookup_of_locate_vacant {path : Text}
    (h : d.locate user purpose path = .ok (.vacant l)) : d.lookup l = none := by
  unfold locate at h
  split at h
  · cases h
  split at h
  · cases h
  split at h
  · cases h
  · have hr := ok_of_mapError h
    split at hr
    · exact lookup_of_walk_vacant hr
    · split at hr
      · exact lookup_of_walk_vacant hr
      · exact lookup_of_walkRemoved_vacant hr

theorem leads_of_advance
    (hjump : ∀ here names, jump here names = .ok (.entry l) →
      ∃ n, n + 1 ≤ budget ∧ d.Leads n here names l)
    (h : d.advance user purpose jump here names = .ok (.entry l)) :
    ∃ n, n ≤ budget ∧ d.Leads n here names l := by
  induction names generalizing here with
  | nil =>
    simp only [advance, Except.ok.injEq, Reached.entry.injEq] at h
    exact ⟨0, Nat.zero_le _, h ▸ .done here⟩
  | cons name rest ih =>
    obtain ⟨hd, ⟨hn, ha⟩ | ⟨rfl, ha⟩ | ⟨hn, ⟨-, -, hr⟩ | ⟨child, hc, ⟨target, hc', ha⟩ | ⟨hc', ha⟩⟩⟩⟩ :=
      advance_cons h
    · obtain ⟨n, hb, hl⟩ := ih ha
      exact ⟨n, hb, .stay hd hn hl⟩
    · obtain ⟨n, hb, hl⟩ := ih ha
      exact ⟨n, hb, .up hd hl⟩
    · cases hr
    · obtain ⟨n, hb, hl⟩ := hjump _ _ ha
      exact ⟨n + 1, hb, .follow hd hn hc hc' hl⟩
    · obtain ⟨n, hb, hl⟩ := ih ha
      exact ⟨n, hb, .down hd hn hc hc' hl⟩

/-- A walk that succeeds follows names that lead to where it ends. -/
theorem leads_of_walk (h : d.walk user purpose budget here names = .ok (.entry l)) :
    ∃ n, n ≤ budget ∧ d.Leads n here names l := by
  induction budget generalizing here names with
  | zero => exact leads_of_advance (fun _ _ h => by cases h) h
  | succ budget ih =>
    refine leads_of_advance (fun here names h => ?_) h
    obtain ⟨n, hn, hl⟩ := ih h
    exact ⟨n, Nat.succ_le_succ hn, hl⟩

theorem isDirectoryAt_of_leads (h : d.Leads n here names l) (hl : d.IsDirectoryAt l) :
    d.IsDirectoryAt here := by
  cases h with
  | done => exact hl
  | stay hd hn hr => exact hd
  | up hd hr => exact hd
  | down hd hn hc hc' hr => exact hd
  | follow hd hn hc hc' hr => exact hd

/-- Names lead on from where others lead. -/
theorem Leads.append (h : d.Leads n here names m) (h' : d.Leads k m rest l) :
    d.Leads (n + k) here (names ++ rest) l := by
  induction h with
  | done here =>
    rw [Nat.zero_add]
    exact h'
  | stay hd hn hl ih => exact .stay hd hn (ih h')
  | up hd hl ih => exact .up hd (ih h')
  | down hd hn hc hc' hl ih => exact .down hd hn hc hc' (ih h')
  | follow hd hn hc hc' hl ih =>
    have hrest := ih h'
    rw [List.append_assoc] at hrest
    rw [Nat.succ_add]
    exact .follow hd hn hc hc' hrest

/-- Names lead to one place. -/
theorem leads_unique {n' : Nat} (h : d.Leads n here names l) (h' : d.Leads n' here names m) :
    l = m := by
  induction h generalizing n' with
  | done =>
    cases h'
    rfl
  | stay hd hn hr ih =>
    cases h' with
    | stay hd' hn' hr' => exact ih hr'
    | up hd' hr' => rcases hn with hn | hn <;> cases hn
    | down hd' hn' hc hc' hr' => exact absurd hn (not_or.2 ⟨hn'.ne_nil, hn'.ne_dot⟩)
    | follow hd' hn' hc hc' hr' => exact absurd hn (not_or.2 ⟨hn'.ne_nil, hn'.ne_dot⟩)
  | up hd hr ih =>
    cases h' with
    | stay hd' hn' hr' => rcases hn' with hn' | hn' <;> cases hn'
    | up hd' hr' => exact ih hr'
    | down hd' hn' hc hc' hr' => exact absurd rfl hn'.ne_dots
    | follow hd' hn' hc hc' hr' => exact absurd rfl hn'.ne_dots
  | down hd hn hc hc' hr ih =>
    cases h' with
    | stay hd' hn' hr' => exact absurd hn' (not_or.2 ⟨hn.ne_nil, hn.ne_dot⟩)
    | up hd' hr' => exact absurd rfl hn.ne_dots
    | down hd' hn' hk hk' hr' => exact ih hr'
    | follow hd' hn' hk hk' hr' =>
      cases hc.symm.trans hk
      exact absurd hk' (hc' _)
  | follow hd hn hc hc' hr ih =>
    cases h' with
    | stay hd' hn' hr' => exact absurd hn' (not_or.2 ⟨hn.ne_nil, hn.ne_dot⟩)
    | up hd' hr' => exact absurd rfl hn.ne_dots
    | down hd' hn' hk hk' hr' =>
      cases hc.symm.trans hk
      exact absurd hc' (hk' _)
    | follow hd' hn' hk hk' hr' =>
      cases hc.symm.trans hk
      cases hc'.symm.trans hk'
      exact ih hr'

/-- A walk over an empty stretch at the end of a path ends where the rest leads. -/
theorem leads_of_leads_concat_nil (h : d.Leads n here names l) {front : List Text}
    (he : names = front ++ [[]]) : d.Leads n here front l := by
  induction h generalizing front with
  | done => simp at he
  | stay hd hn hr ih =>
    cases front with
    | nil =>
      obtain ⟨rfl, rfl⟩ := List.cons_eq_cons.1 he
      exact hr
    | cons x front =>
      obtain ⟨rfl, rfl⟩ := List.cons_eq_cons.1 he
      exact .stay hd hn (ih rfl)
  | up hd hr ih =>
    cases front with
    | nil => cases he
    | cons x front =>
      obtain ⟨rfl, rfl⟩ := List.cons_eq_cons.1 he
      exact .up hd (ih rfl)
  | down hd hn hc hc' hr ih =>
    cases front with
    | nil => exact absurd (List.cons_eq_cons.1 he).1 hn.ne_nil
    | cons x front =>
      obtain ⟨rfl, rfl⟩ := List.cons_eq_cons.1 he
      exact .down hd hn hc hc' (ih rfl)
  | follow hd hn hc hc' hr ih =>
    cases front with
    | nil => exact absurd (List.cons_eq_cons.1 he).1 hn.ne_nil
    | cons x front =>
      obtain ⟨rfl, rfl⟩ := List.cons_eq_cons.1 he
      exact .follow hd hn hc hc' (ih (List.append_assoc _ _ _).symm)

end CommandShell.Disk
