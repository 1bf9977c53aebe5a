import CommandShell.Fault.Basic
/-! What stands before a mark in a text. -/
namespace CommandShell

variable {mark t kept kept' : Text}

/-- What is left of a text that is cut at its first mark. -/
inductive Text.Cut (mark : Text) : Text → Text → Prop
  | whole (t : Text) (h : ¬ mark <:+: t) : Cut mark t t
  | first (kept lost : Text)
      (h : ∀ earlier later, kept ++ mark ++ lost = earlier ++ mark ++ later →
        kept.length ≤ earlier.length) :
      Cut mark (kept ++ mark ++ lost) kept

namespace Text

theorem Cut.unique (h : Cut mark t kept) (h' : Cut mark t kept') : kept = kept' := by
  generalize ht : t = t' at h'
  cases h with
  | whole _ h =>
    cases h' with
    | whole _ _ => exact ht
    | first _ lost _ => exact absurd ⟨kept', lost, ht.symm⟩ h
  | first _ lost h =>
    cases h' with
    | whole _ h' => exact absurd ⟨kept, lost, ht⟩ h'
    | first _ lost' h' =>
      have hle : kept.length ≤ kept'.length := h kept' lost' ht
      have hge : kept'.length ≤ kept.length := h' kept lost ht.symm
      rw [List.append_assoc, List.append_assoc] at ht
      exact (List.append_inj ht (Nat.le_antisymm hle hge)).1

/-- A mark further on is the first one of a longer text, if none begins with the new character. -/
theorem Cut.cons {c : Char} (hp : ¬ mark <+: c :: t) (h : Cut mark t kept) :
    Cut mark (c :: t) (c :: kept) := by
  cases h with
  | whole _ h =>
    refine .whole (c :: t) fun hi => ?_
    rcases List.infix_cons_iff.1 hi with hi | hi
    · exact hp hi
    · exact h hi
  | first _ lost h =>
    refine .first (c :: kept) lost fun earlier later he => ?_
    cases earlier with
    | nil => exact absurd ⟨later, he.symm⟩ hp
    | cons _ earlier => exact Nat.succ_le_succ (h earlier later (List.cons.inj he).2)

theorem cut_before (mark t : Text) : Cut mark t (before mark t) := by
  induction t with
  | nil =>
    by_cases hm : mark <:+: []
    · obtain rfl := List.eq_nil_of_infix_nil hm
      exact .first [] [] fun _ _ _ => Nat.zero_le _
    · exact .whole [] hm
  | cons c t ih =>
    rw [before]
    split
    · rename_i hp
      obtain ⟨lost, hlost⟩ := List.isPrefixOf_iff_prefix.1 hp
      rw [← hlost]
      exact .first [] lost fun _ _ _ => Nat.zero_le _
    · rename_i hp
      exact ih.cons fun h => hp (List.isPrefixOf_iff_prefix.2 h)

theorem before_eq_iff : before mark t = kept ↔ Cut mark t kept := by
  constructor
  · rintro rfl
    exact cut_before mark t
  · exact fun h => (cut_before mark t).unique h

theorem prefix_of_cut (h : Cut mark t kept) : kept <+: t := by
  cases h with
  | whole _ _ => exact List.prefix_refl t
  | first _ lost _ => exact ⟨mark ++ lost, (List.append_assoc ..).symm⟩

theorem Cut.ne_self (hm : mark ≠ []) (hi : mark <:+: t) (h : Cut mark t kept) : kept ≠ t := by
  cases h with
  | whole _ h => exact absurd hi h
  | first _ lost _ =>
    intro he
    rw [List.append_assoc] at he
    exact hm (List.append_eq_nil_iff.1 (List.self_eq_append_right.1 he)).1

/-- Nothing is cut off a text just if the mark is not in it. -/
theorem cut_self_iff (hm : mark ≠ []) : Cut mark t t ↔ ¬ mark <:+: t :=
  ⟨fun h hi => h.ne_self hm hi rfl, .whole t⟩

/-- The first mark is where one of its characters stands that is not met before. -/
theorem cut_of_notMem {c : Char} {start rest : Text} (h : c ∉ kept ++ start) (lost : Text) :
    Cut (start ++ c :: rest) (kept ++ (start ++ c :: rest) ++ lost) kept := by
  refine .first kept lost fun earlier later he => ?_
  have hmarks : (kept ++ start) ++ c :: (rest ++ lost) =
      (earlier ++ start) ++ c :: (rest ++ later) := by
    simpa only [List.append_assoc, List.cons_append] using he
  have hlength : (kept ++ start).length ≤ (earlier ++ start).length := by
    rcases List.append_eq_append_iff.1 hmarks with ⟨between, hb, -⟩ | ⟨between, hb, hc⟩
    · exact List.IsPrefix.length_le ⟨between, hb.symm⟩
    · cases between with
      | nil => exact Nat.le_of_eq (congrArg List.length (hb.trans (List.append_nil _)))
      | cons x between =>
        obtain rfl : c = x := (List.cons.inj hc).1
        exact absurd (hb ▸ List.mem_append_right _ (List.mem_cons_self ..)) h
  rw [List.length_append, List.length_append] at hlength
  exact Nat.le_of_add_le_add_right hlength

end Text

end CommandShell
