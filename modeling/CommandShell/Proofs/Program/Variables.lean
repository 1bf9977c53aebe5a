import CommandShell.Session.Basic
/-! The variables that a program is started with. Of several values of a name the last one is handed
over, and the strings in which that is done say what the variables say. -/
namespace CommandShell

section Keys

variable {α β : Type} {a : α} {b : β} {e : α × β} {l l' : List (α × β)}

/-- No name comes twice. -/
def Distinct (l : List (α × β)) : Prop := (l.map (·.1)).Nodup

theorem Distinct.of_cons (h : Distinct (e :: l)) : e.1 ∉ l.map (·.1) ∧ Distinct l :=
  List.nodup_cons.1 h

theorem Distinct.reverse (h : Distinct l) : Distinct l.reverse := by
  rw [Distinct, List.map_reverse]
  exact List.pairwise_reverse.2 (List.Pairwise.imp Ne.symm h)

theorem Distinct.nodup (h : Distinct l) : l.Nodup :=
  List.Pairwise.of_map (·.1) (fun _ _ hne he => hne (congrArg _ he)) h

variable [BEq α] [LawfulBEq α] [DecidableEq α]

theorem lookup_cons (a : α) (b : β) (l : List (α × β)) (x : α) :
    List.lookup x ((a, b) :: l) = if x = a then some b else l.lookup x := by
  by_cases h : x = a
  · rw [if_pos h, h, List.lookup_cons_self]
  · rw [if_neg h, List.lookup_cons, beq_false_of_ne h]

theorem Distinct.mem_iff (h : Distinct l) : (a, b) ∈ l ↔ l.lookup a = some b := by
  induction l with
  | nil => simp
  | cons e l ih =>
    obtain ⟨x, y⟩ := e
    obtain ⟨hnew, hrest⟩ := h.of_cons
    rw [List.mem_cons, Prod.mk.injEq, ih hrest, lookup_cons]
    by_cases ha : a = x
    · have hnone : ¬ l.lookup a = some b := by
        rw [← ih hrest, ha]
        exact fun hmem => hnew (List.mem_map.2 ⟨(x, b), hmem, rfl⟩)
      rw [if_pos ha, Option.some.injEq]
      exact ⟨fun h => (h.resolve_right hnone).2.symm, fun h => Or.inl ⟨ha, h.symm⟩⟩
    · rw [if_neg ha]
      exact ⟨fun h => h.resolve_left fun heq => ha heq.1, Or.inr⟩

theorem Distinct.lookup_reverse (h : Distinct l) (a : α) : l.reverse.lookup a = l.lookup a := by
  apply Option.ext
  intro b
  rw [← h.reverse.mem_iff, List.mem_reverse, h.mem_iff]

end Keys

namespace Environment

variable {env env' : Environment} {n k u v : Bytes} {e : Bytes × Bytes}

/-- A name that can be told from the value after it. -/
def IsName (n : Bytes) : Prop := n ≠ [] ∧ 0x3D ∉ n

/-- The variables of a process as it gets them. -/
structure WellFormed (env : Environment) : Prop where
  named : ∀ e ∈ env, IsName e.1
  distinct : Distinct env

/-- Under the name stands this value and no other, or none at all. -/
def Binds (env : Environment) (n : Bytes) (value : Option Bytes) : Prop :=
  ∀ v, (n, v) ∈ env ↔ value = some v

theorem lookup_insert (name value : Bytes) (env : Environment) (n : Bytes) :
    (env.insert name value).lookup n = if n = name then some value else env.lookup n := by
  induction env with
  | nil => rw [insert, lookup_cons]
  | cons e env ih =>
    obtain ⟨k, v⟩ := e
    rw [insert]
    split
    · rw [lookup_cons]
    · split
      · rename_i hname
        rw [lookup_cons, lookup_cons, ← hname]
        split <;> rfl
      · rename_i hname
        rw [lookup_cons, lookup_cons, ih]
        by_cases hn : n = name
        · rw [if_pos hn, if_pos hn, if_neg (hn ▸ hname)]
        · rw [if_neg hn, if_neg hn]

/-- Of several values the last one counts. -/
theorem lookup_extend (env : Environment) (vars : List (Bytes × Bytes)) (n : Bytes) :
    (env.extend vars).lookup n = (vars.reverse.lookup n).or (env.lookup n) := by
  induction vars generalizing env with
  | nil => rfl
  | cons e vars ih =>
    obtain ⟨k, v⟩ := e
    have hstep : env.extend ((k, v) :: vars) = (env.insert k v).extend vars := rfl
    rw [hstep, ih, lookup_insert, List.reverse_cons, List.lookup_append, Option.or_assoc,
      lookup_cons]
    split <;> rfl

/-- The names are in order, each once. -/
def Ascending (env : Environment) : Prop := env.Pairwise fun e e' => e.1 < e'.1

theorem mem_insert {name value : Bytes} (h : e ∈ env.insert name value) :
    e = (name, value) ∨ e ∈ env := by
  induction env with
  | nil => exact Or.inl (List.mem_singleton.1 h)
  | cons d env ih =>
    obtain ⟨k, v⟩ := d
    rw [insert] at h
    split at h
    · exact List.mem_cons.1 h
    · split at h
      · rcases List.mem_cons.1 h with h | h
        · exact Or.inl h
        · exact Or.inr (List.mem_cons_of_mem _ h)
      · rcases List.mem_cons.1 h with h | h
        · exact Or.inr (List.mem_cons.2 (Or.inl h))
        · rcases ih h with h | h
          · exact Or.inl h
          · exact Or.inr (List.mem_cons_of_mem _ h)

theorem Ascending.insert (h : env.Ascending) (name value : Bytes) :
    Ascending (env.insert name value) := by
  induction env with
  | nil => exact List.pairwise_singleton _ _
  | cons d env ih =>
    obtain ⟨k, v⟩ := d
    obtain ⟨hk, henv⟩ := List.pairwise_cons.1 h
    rw [Environment.insert]
    split
    · rename_i hlt
      refine List.pairwise_cons.2 ⟨fun e he => ?_, h⟩
      rcases List.mem_cons.1 he with rfl | he
      · exact hlt
      · exact List.lt_trans hlt (hk e he)
    · split
      · rename_i heq
        exact List.pairwise_cons.2 ⟨fun e he => heq ▸ hk e he, henv⟩
      · rename_i hlt heq
        refine List.pairwise_cons.2 ⟨fun e he => ?_, ih henv⟩
        rcases mem_insert he with rfl | he
        · exact ((Std.lt_trichotomy name k).resolve_left hlt).resolve_left heq
        · exact hk e he

theorem Ascending.extend (h : env.Ascending) (vars : List (Bytes × Bytes)) :
    Ascending (env.extend vars) := by
  induction vars generalizing env with
  | nil => exact h
  | cons e vars ih => exact ih (h.insert e.1 e.2)

theorem Ascending.distinct (h : env.Ascending) : Distinct env := by
  have hne : ∀ e e' : Bytes × Bytes, e.1 < e'.1 → e.1 ≠ e'.1 := by
    intro e e' hlt heq
    rw [heq] at hlt
    exact List.lt_irrefl e'.1 hlt
  exact List.Pairwise.map (·.1) hne h

theorem distinct_extend (vars : List (Bytes × Bytes)) : Distinct (extend [] vars) :=
  Ascending.distinct (Ascending.extend List.Pairwise.nil vars)

/-- New values go over old ones. -/
theorem lookup_extend_append (h : Distinct env) (h' : Distinct env') (n : Bytes) :
    (extend [] (env ++ env')).lookup n = (env'.lookup n).or (env.lookup n) := by
  rw [lookup_extend, List.reverse_append, List.lookup_append, h.lookup_reverse, h'.lookup_reverse,
    List.lookup_nil, Option.or_none]

theorem takeWhile_name (h : 0x3D ∉ n) (v : Bytes) :
    (n ++ 0x3D :: v).takeWhile (· != 0x3D) = n ∧
      (n ++ 0x3D :: v).dropWhile (· != 0x3D) = 0x3D :: v := by
  have hall : ∀ b ∈ n, (b != 0x3D) = true := fun b hb => bne_iff_ne.2 fun he => h (he ▸ hb)
  rw [List.takeWhile_append_of_pos hall, List.dropWhile_append_of_pos hall]
  simp

/-- A process takes the string of a variable for that variable. -/
theorem ofString?_string (h : IsName n) (v : Bytes) : ofString? (string (n, v)) = some (n, v) := by
  obtain ⟨hne, hsign⟩ := h
  cases n with
  | nil => exact absurd rfl hne
  | cons b n =>
    obtain ⟨htake, hdrop⟩ := takeWhile_name (fun hmem => hsign (List.mem_cons_of_mem b hmem)) v
    rw [string, List.cons_append, ofString?, hdrop, htake]

/-- Whatever a process takes a string for, the string is that of it. -/
theorem string_of_ofString? {bs : Bytes} (h : ofString? bs = some e) : string e = bs := by
  cases bs with
  | nil => cases h
  | cons b bs =>
    rw [ofString?] at h
    split at h
    · cases h
    · rename_i c value hdrop
      obtain rfl := Option.some.inj h
      have hsign : c = 0x3D := by
        have hhead := List.head?_dropWhile_not (· != 0x3D) bs
        rw [hdrop] at hhead
        simpa using hhead
      have hsplit := List.takeWhile_append_dropWhile (p := (· != 0x3D)) (l := bs)
      rw [hdrop, hsign] at hsplit
      rw [string, List.cons_append, hsplit]

/-- Two variables have one string only where a name goes on with the sign after the other name. -/
theorem eq_or_prefix_of_string (h : 0x3D ∉ n) (hs : string (k, u) = string (n, v)) :
    (k, u) = (n, v) ∨ n ++ [0x3D] <+: k := by
  have hbytes : k ++ 0x3D :: u = n ++ 0x3D :: v := hs
  rcases List.append_eq_append_iff.1 hbytes with ⟨as, rfl, has⟩ | ⟨as, rfl, has⟩
  · cases as with
    | nil =>
      rw [List.nil_append, List.cons.injEq] at has
      rw [has.2, List.append_nil]
      exact Or.inl rfl
    | cons a as =>
      rw [List.cons_append, List.cons.injEq] at has
      exact absurd (List.mem_append_right k (has.1 ▸ List.mem_cons_self ..)) h
  · cases as with
    | nil =>
      rw [List.nil_append, List.cons.injEq] at has
      rw [has.2, List.append_nil]
      exact Or.inl rfl
    | cons a as =>
      rw [List.cons_append, List.cons.injEq] at has
      refine Or.inr ⟨as, ?_⟩
      rw [has.1, List.append_assoc]
      rfl

/-- What a process finds under a name is what was handed over under it, unless another name begins
with it and the sign. -/
theorem mem_ofStrings_iff (hn : IsName n) (h : ∀ e ∈ env, ¬ n ++ [0x3D] <+: e.1) :
    (n, v) ∈ ofStrings (env.map string) ↔ (n, v) ∈ env := by
  rw [ofStrings, List.filterMap_map, List.mem_filterMap]
  constructor
  · rintro ⟨e, he, hs⟩
    rcases eq_or_prefix_of_string hn.2 (string_of_ofString? hs).symm with heq | hpre
    · rwa [← heq]
    · exact absurd hpre (h e he)
  · intro hmem
    exact ⟨(n, v), hmem, ofString?_string hn v⟩

/-- Well-formed variables are read back from their strings. -/
theorem ofStrings_string (h : ∀ e ∈ env, IsName e.1) : ofStrings (env.map string) = env := by
  induction env with
  | nil => rfl
  | cons e env ih =>
    obtain ⟨k, v⟩ := e
    have hrest := ih fun e he => h e (List.mem_cons_of_mem _ he)
    have hread := ofString?_string (h (k, v) (List.mem_cons_self ..)) v
    rw [ofStrings] at hrest ⊢
    rw [List.map_cons, List.filterMap_cons_some hread, hrest]

end Environment

namespace Variables

/-- The variables as bytes. -/
def encode (vs : Variables) : Environment := vs.map fun (n, v) => (Utf8.encode n, Utf8.encode v)

end Variables

/-- What a program is started with: a place, the new variables over the inherited ones, and the
input. -/
theorem Launch.start_spec {l : Launch} {d : Disk} {cwd : Place} {writing : List Nat}
    {inherited : Environment} {input : Intake} {process : Process}
    (h : l.start d cwd writing inherited input = .ok process) :
    d.enter cwd l.directory = .ok process.directory ∧
      process.environment = Environment.extend [] (inherited ++ Variables.encode l.vars) ∧
      process.input = input := by
  unfold start at h
  split at h
  · cases h
  split at h
  · cases h
  · rename_i place he
    dsimp only at h
    split at h
    · cases h
    split at h
    · cases h
    · cases h
      exact ⟨he, rfl, rfl⟩

end CommandShell
