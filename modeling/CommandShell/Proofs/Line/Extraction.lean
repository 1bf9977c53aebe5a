import CommandShell.Line.Redirect
import Mathlib.Data.List.Induction
/-! Which words redirect, and what becomes of items that are handed over word by word. -/
namespace CommandShell

variable {t digits rest target : Text} {fd n : Nat} {its : List Item} {rs : Redirects}

/-- Digits that name a descriptor, or none, then `>`, then nothing or a target that starts with no
`>` and has no newline after its start. -/
structure IsOperator (digits rest : Text) : Prop where
  decimal : ∀ c ∈ digits, isDecimal c = true
  small : digits = [] ∨ decimalValue digits < descriptorLimit
  target : rest = [] ∨ ∃ c cs, rest = c :: cs ∧ c ≠ '>' ∧ '\n' ∉ cs

/-- Whether a word is taken for a redirection and not for a word of the command. -/
def Redirecting (t : Text) : Prop :=
  ∃ digits rest, t = digits ++ '>' :: rest ∧ IsOperator digits rest

theorem isDecimal_gt : isDecimal '>' = false := by decide

theorem descriptor?_isSome_iff :
    (descriptor? digits).isSome = true ↔ digits = [] ∨ decimalValue digits < descriptorLimit := by
  by_cases hd : digits = []
  · simp [descriptor?, hd]
  · by_cases hv : decimalValue digits < descriptorLimit <;> simp [descriptor?, hd, hv]

namespace Operator

/-- What a word with such a start is taken for. -/
theorem ofToken?_append (hd : ∀ c ∈ digits, isDecimal c = true) :
    ofToken? (digits ++ '>' :: rest) =
      match rest with
      | [] => (descriptor? digits).map .bare
      | c :: cs =>
        if c = '>' ∨ '\n' ∈ cs then none else (descriptor? digits).map (.glued · (c :: cs)) := by
  have ht : (digits ++ '>' :: rest).takeWhile isDecimal = digits := by
    rw [List.takeWhile_append_of_pos hd]
    simp [isDecimal_gt]
  have hr : (digits ++ '>' :: rest).dropWhile isDecimal = '>' :: rest := by
    rw [List.dropWhile_append_of_pos hd]
    simp [isDecimal_gt]
  rw [ofToken?, ht, hr]
  cases rest <;> rfl

theorem redirecting_of_ofToken? (h : (ofToken? t).isSome = true) : Redirecting t := by
  have hd : ∀ c ∈ t.takeWhile isDecimal, isDecimal c = true := List.all_eq_true.1 List.all_takeWhile
  rw [ofToken?] at h
  split at h
  · rename_i target hr
    have ht : t = t.takeWhile isDecimal ++ '>' :: target := by
      rw [← hr, List.takeWhile_append_dropWhile]
    split at h
    · rw [Option.isSome_map] at h
      exact ⟨_, _, ht, hd, descriptor?_isSome_iff.1 h, Or.inl rfl⟩
    · rename_i c rest
      split at h
      · cases h
      · rename_i hc
        rw [Option.isSome_map] at h
        obtain ⟨hc, hn⟩ := not_or.1 hc
        exact ⟨_, _, ht, hd, descriptor?_isSome_iff.1 h, Or.inr ⟨c, rest, rfl, hc, hn⟩⟩
  · cases h

theorem ofToken?_isSome_iff : (ofToken? t).isSome = true ↔ Redirecting t := by
  refine ⟨redirecting_of_ofToken?, ?_⟩
  rintro ⟨digits, rest, rfl, hd, hs, hr⟩
  have hsome := descriptor?_isSome_iff.2 hs
  rw [ofToken?_append hd]
  rcases hr with rfl | ⟨c, cs, rfl, hc, hn⟩
  · simpa using hsome
  · simpa [hc, hn] using hsome

instance : DecidablePred Redirecting := fun _ => decidable_of_iff _ ofToken?_isSome_iff

theorem ofToken?_eq_none (h : ¬ Redirecting t) : ofToken? t = none :=
  Option.not_isSome_iff_eq_none.1 fun hs => h (ofToken?_isSome_iff.1 hs)

end Operator

theorem isDecimal_of_mem_decimal {c : Char} (h : c ∈ decimal n) : isDecimal c = true := by
  have hc : c.isDigit = true := Nat.isDigit_of_mem_toDigits (by decide) (by decide) h
  simpa [isDecimal, Char.isDigit, Char.le_def] using hc

theorem decimalValue_decimal (n : Nat) : decimalValue (decimal n) = n := by
  have h := Nat.ofDigitChars_ten_toDigits (n := n)
  rw [Nat.ofDigitChars_eq_foldl] at h
  rw [decimalValue, decimal]
  simpa [Nat.mul_comm] using h

theorem descriptor?_decimal (h : n < descriptorLimit) : descriptor? (decimal n) = some n := by
  have hne : decimal n ≠ [] := Nat.toDigits_ne_nil
  simp [descriptor?, hne, decimalValue_decimal, h]

namespace Item

/-- The words in which an item is handed over: a redirection in two of them. -/
def tokens : Item → List Text
  | word t => [t]
  | redirect fd target => [decimal fd ++ ['>'], target]

/-- An item that a line can ask for: a word that does not redirect, or a redirection of a descriptor
of 32 bits. -/
def Proper : Item → Prop
  | word t => ¬ Redirecting t
  | redirect fd _ => fd < descriptorLimit

instance : DecidablePred Proper
  | word t => inferInstanceAs (Decidable (¬ Redirecting t))
  | redirect fd _ => inferInstanceAs (Decidable (fd < descriptorLimit))

end Item

theorem ofToken?_decimal (h : n < descriptorLimit) :
    Operator.ofToken? (decimal n ++ ['>']) = some (.bare n) := by
  rw [Operator.ofToken?_append fun c hc => isDecimal_of_mem_decimal hc]
  simp [descriptor?_decimal h]

/-- Items come back from the words in which they are handed over, whatever their targets look
like. -/
theorem items_tokens (h : ∀ i ∈ its, i.Proper) : items (its.flatMap Item.tokens) = its := by
  induction its with
  | nil => rfl
  | cons i its ih =>
    have hi : i.Proper := h i (List.mem_cons_self ..)
    have hs := ih fun j hj => h j (List.mem_cons_of_mem i hj)
    cases i with
    | word t =>
      have ht : Operator.ofToken? t = none := Operator.ofToken?_eq_none hi
      simp [Item.tokens, items, ht, hs]
    | redirect fd target =>
      have ht := ofToken?_decimal hi
      simp [Item.tokens, items, ht, hs]

namespace Redirects

/-- The descriptors rise, so each has one target. -/
def Ascending (rs : Redirects) : Prop := rs.Pairwise (·.1 < ·.1)

@[simp] theorem target?_cons (m : Nat) (t : Text) (rs : Redirects) (n : Nat) :
    target? ((m, t) :: rs) n = if n = m then some t else rs.target? n := by
  by_cases h : n = m
  · simp [target?, h]
  · have hb : (n == m) = false := by simpa using h
    simp [target?, List.lookup_cons, h, hb]

theorem target?_eq_none (h : ∀ r ∈ rs, r.1 ≠ n) : rs.target? n = none := by
  induction rs with
  | nil => rfl
  | cons r rs ih =>
    obtain ⟨m, t⟩ := r
    have hm : n ≠ m := fun he => h (m, t) (List.mem_cons_self ..) he.symm
    rw [target?_cons, if_neg hm]
    exact ih fun q hq => h q (List.mem_cons_of_mem _ hq)

theorem target?_insert (rs : Redirects) (fd n : Nat) (target : Text) :
    (rs.insert fd target).target? n = if n = fd then some target else rs.target? n := by
  induction rs with
  | nil => simp [insert]
  | cons r rs ih =>
    obtain ⟨m, t⟩ := r
    simp only [insert]
    split
    · simp
    · split
      · rename_i hm
        by_cases h : n = fd <;> simp [h, ← hm]
      · rename_i hm
        by_cases h : n = m
        · simp [h, Ne.symm hm]
        · simp [h, ih]

theorem fst_of_mem_insert {r : Nat × Text} (h : r ∈ rs.insert fd target) : r.1 = fd ∨ r ∈ rs := by
  induction rs with
  | nil => simp_all [insert]
  | cons q rs ih =>
    obtain ⟨m, t⟩ := q
    simp only [insert] at h
    split at h
    · rcases List.mem_cons.1 h with rfl | h
      · exact Or.inl rfl
      · exact Or.inr h
    · split at h
      · rcases List.mem_cons.1 h with rfl | h
        · exact Or.inl rfl
        · exact Or.inr (List.mem_cons_of_mem _ h)
      · rcases List.mem_cons.1 h with rfl | h
        · exact Or.inr (List.mem_cons_self ..)
        · exact (ih h).imp_right (List.mem_cons_of_mem _)

theorem ascending_insert (h : rs.Ascending) : (rs.insert fd target).Ascending := by
  induction rs with
  | nil => simp [insert, Ascending]
  | cons q rs ih =>
    obtain ⟨m, t⟩ := q
    obtain ⟨hm, hrs⟩ := List.pairwise_cons.1 h
    simp only [insert]
    split
    · rename_i hlt
      refine List.pairwise_cons.2 ⟨?_, h⟩
      intro r hr
      rcases List.mem_cons.1 hr with rfl | hr
      · exact hlt
      · exact Nat.lt_trans hlt (hm r hr)
    · split
      · rename_i heq
        exact List.pairwise_cons.2 ⟨fun r hr => heq ▸ hm r hr, hrs⟩
      · rename_i hlt hne
        refine List.pairwise_cons.2 ⟨?_, ih hrs⟩
        intro r hr
        rcases fst_of_mem_insert hr with he | hr
        · change m < r.1
          omega
        · exact hm r hr

end Redirects

namespace Item

/-- The target that the item gives to a descriptor. -/
def target? (fd : Nat) : Item → Option Text
  | word _ => none
  | redirect n target => if fd = n then some target else none

end Item

/-- The target of the last redirection of a descriptor. -/
def lastTarget? (fd : Nat) (its : List Item) : Option Text :=
  its.reverse.findSome? (Item.target? fd)

theorem redirects_concat (its : List Item) (i : Item) :
    redirects (its ++ [i]) = match i with
      | .word _ => redirects its
      | .redirect fd target => (redirects its).insert fd target := by
  cases i <;> simp [redirects]

theorem redirects_spec (its : List Item) :
    (redirects its).Ascending ∧ ∀ fd, (redirects its).target? fd = lastTarget? fd its := by
  induction its using List.reverseRecOn with
  | nil => exact ⟨.nil, fun fd => rfl⟩
  | append_singleton its i ih =>
    rw [redirects_concat]
    cases i with
    | word t => simpa [lastTarget?, List.findSome?_cons, Item.target?] using ih
    | redirect n target =>
      refine ⟨Redirects.ascending_insert ih.1, ?_⟩
      intro fd
      rw [Redirects.target?_insert, ih.2 fd]
      by_cases h : fd = n <;> simp [lastTarget?, Item.target?, h]

end CommandShell
