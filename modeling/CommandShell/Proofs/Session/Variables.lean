import CommandShell.Proofs.Program.Variables
import CommandShell.Proofs.Text.Canonical
/-! The variables of a session. One that takes over those of its process has all that are text, and
none of them has changed when it comes back as bytes. -/
namespace CommandShell

namespace Variables

variable {vs : Variables} {name m value : Text} {n v : Bytes}

theorem get?_unset (vs : Variables) (name m : Text) :
    (vs.unset name).get? m = if m = name then none else vs.get? m := by
  induction vs with
  | nil => simp [unset, get?]
  | cons e vs ih =>
    obtain ⟨k, u⟩ := e
    rw [unset, get?] at ih
    rw [unset, get?, get?, List.filter_cons]
    by_cases hk : k = name
    · rw [if_neg (by simp [hk]), ih, get?, lookup_cons, hk]
      split <;> rfl
    · rw [if_pos (by simp [hk]), lookup_cons, ih, get?, lookup_cons]
      by_cases hm : m = k
      · rw [if_pos hm, if_pos hm, if_neg (hm ▸ hk)]
      · rw [if_neg hm, if_neg hm]

theorem get?_set (vs : Variables) (name value m : Text) :
    (vs.set name value).get? m = if m = name then some value else vs.get? m := by
  have hunset := get?_unset vs name m
  rw [get?] at hunset
  rw [set, get?, lookup_cons, hunset]
  split <;> rfl

theorem distinct_set (h : Distinct vs) (name value : Text) : Distinct (vs.set name value) := by
  refine List.nodup_cons.2 ⟨fun hmem => ?_, List.Pairwise.sublist (List.filter_sublist.map _) h⟩
  obtain ⟨e, he, heq⟩ := List.mem_map.1 hmem
  have hne := (List.mem_filter.1 he).2
  rw [heq, bne_self_eq_false] at hne
  cases hne

/-- Variables set one after another. -/
def setAll (vs more : Variables) : Variables := more.foldl (fun vs v => vs.set v.1 v.2) vs

theorem setAll_spec (h : Distinct vs) (more : Variables) :
    Distinct (vs.setAll more) ∧
      ∀ m, (vs.setAll more).get? m = (more.reverse.lookup m).or (vs.get? m) := by
  induction more generalizing vs with
  | nil => exact ⟨h, fun m => rfl⟩
  | cons e more ih =>
    obtain ⟨k, u⟩ := e
    obtain ⟨hdistinct, hget⟩ := ih (distinct_set h k u)
    have hstep : vs.setAll ((k, u) :: more) = (vs.set k u).setAll more := rfl
    rw [hstep]
    refine ⟨hdistinct, fun m => ?_⟩
    rw [hget, get?_set, List.reverse_cons, List.lookup_append, Option.or_assoc, lookup_cons]
    split <;> rfl

theorem mem_encode :
    (n, v) ∈ vs.encode ↔
      ∃ name value, (name, value) ∈ vs ∧ n = Utf8.encode name ∧ v = Utf8.encode value := by
  rw [encode, List.mem_map]
  constructor
  · rintro ⟨⟨name, value⟩, hmem, heq⟩
    obtain ⟨rfl, rfl⟩ := Prod.mk.inj heq
    exact ⟨name, value, hmem, rfl, rfl⟩
  · rintro ⟨name, value, hmem, rfl, rfl⟩
    exact ⟨(name, value), hmem, rfl⟩

theorem distinct_encode (h : Distinct vs) : Distinct vs.encode := by
  rw [Distinct, encode, List.map_map]
  have hinj : ∀ e e' : Text × Text, e.1 ≠ e'.1 → Utf8.encode e.1 ≠ Utf8.encode e'.1 :=
    fun _ _ hne heq => hne (Utf8.encode_inj.1 heq)
  exact List.Pairwise.map _ hinj (List.pairwise_map.1 h)

/-- The bytes under a name are those of what is bound to the text that the name is. -/
theorem lookup_encode (h : Distinct vs) (n : Bytes) :
    vs.encode.lookup n = ((Utf8.decode? n).bind vs.get?).map Utf8.encode := by
  apply Option.ext
  intro v
  rw [← (distinct_encode h).mem_iff, mem_encode, Option.map_eq_some_iff]
  constructor
  · rintro ⟨name, value, hmem, rfl, rfl⟩
    refine ⟨value, ?_, rfl⟩
    rw [Utf8.decode?_encode]
    exact h.mem_iff.1 hmem
  · rintro ⟨value, hbound, rfl⟩
    obtain ⟨name, hname, hget⟩ := Option.bind_eq_some_iff.1 hbound
    exact ⟨name, value, h.mem_iff.2 hget, Utf8.decode?_eq_some_iff.1 hname, rfl⟩

end Variables

variable {env : Environment} {name value : Text} {w : World}

/-- All that is text is kept, and nothing else. -/
theorem mem_readableVariables :
    (name, value) ∈ (readableVariables env).1 ↔ (Utf8.encode name, Utf8.encode value) ∈ env := by
  induction env with
  | nil => simp [readableVariables]
  | cons e env ih =>
    obtain ⟨n, v⟩ := e
    rw [List.mem_cons, Prod.mk.injEq, eq_comm (b := n), eq_comm (b := v),
      ← Utf8.decode?_eq_some_iff, ← Utf8.decode?_eq_some_iff, ← ih, readableVariables]
    dsimp only
    split
    · rename_i hn hv
      rw [hn, hv, List.mem_cons, Prod.mk.injEq, Option.some.injEq, Option.some.injEq,
        eq_comm (a := name), eq_comm (a := value)]
    · rename_i hskip
      exact ⟨Or.inr, fun h => h.resolve_left fun hread => hskip _ _ hread.1 hread.2⟩

theorem distinct_readableVariables (h : Distinct env) : Distinct (readableVariables env).1 := by
  induction env with
  | nil => exact List.Pairwise.nil
  | cons e env ih =>
    obtain ⟨n, v⟩ := e
    obtain ⟨hnew, hrest⟩ := h.of_cons
    rw [readableVariables]
    dsimp only
    split
    · rename_i name value hn hv
      refine List.nodup_cons.2 ⟨fun hmem => hnew ?_, ih hrest⟩
      obtain ⟨⟨m, u⟩, hkept, rfl⟩ := List.mem_map.1 hmem
      refine List.mem_map.2 ⟨_, mem_readableVariables.1 hkept, ?_⟩
      exact (Utf8.decode?_eq_some_iff.1 hn).symm
    · exact ih hrest

/-- What a session takes over: each name has one value, and it is that of the process. -/
theorem inherit_spec (directory : Text) (h : Distinct w.environment) :
    Distinct (Session.inherit directory w).session.vars ∧
      ∀ name value, (Session.inherit directory w).session.vars.get? name = some value ↔
        (Utf8.encode name, Utf8.encode value) ∈ w.environment := by
  have hkept := distinct_readableVariables h
  have hnone : Distinct ([] : Variables) := List.Pairwise.nil
  obtain ⟨hdistinct, hget⟩ := Variables.setAll_spec hnone (readableVariables w.environment).1
  refine ⟨hdistinct, fun name value => ?_⟩
  have hvalue : (Session.inherit directory w).session.vars.get? name =
      (readableVariables w.environment).1.lookup name := by
    refine (hget name).trans ?_
    rw [hkept.lookup_reverse]
    exact Option.or_none
  rw [hvalue, ← hkept.mem_iff, mem_readableVariables]

end CommandShell
