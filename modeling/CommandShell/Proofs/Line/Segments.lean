import CommandShell.Proofs.Line.Extraction
import Mathlib.Algebra.Group.Nat.Defs
/-! What redirects among the words of a list, by the look of the words alone: an operator takes the
word after it along, whatever that is, and a word that only looks like an operator stays. -/
namespace CommandShell

variable {digits before rest t target : Text} {fd : Nat} {ts us : List Text} {its its' : List Item}
  {waiting : Option Nat}

/-- The descriptor that a text before `>` stands for: nothing stands for the output, and digits for
their number, if it has 32 bits. -/
inductive Denotes : Text → Nat → Prop
  | nothing : Denotes [] 1
  | number {digits : Text} (hne : digits ≠ []) (hd : ∀ c ∈ digits, c.isDigit = true)
      (hv : Nat.ofDigitChars 10 digits 0 < 2 ^ 32) : Denotes digits (Nat.ofDigitChars 10 digits 0)

/-- An operator by itself. -/
def Bare (t : Text) (fd : Nat) : Prop := ∃ digits, Denotes digits fd ∧ t = digits ++ ['>']

/-- An operator with its target: any character but another `>`, and then no newline. -/
def Glued (t : Text) (fd : Nat) (target : Text) : Prop :=
  ∃ digits c cs, Denotes digits fd ∧ target = c :: cs ∧ c ≠ '>' ∧ '\n' ∉ cs ∧
    t = digits ++ '>' :: target

/-- The items of a list of words, read from left to right. At the end an operator may be left that
waits for its target in vain. -/
inductive Segmented : List Text → List Item → Option Nat → Prop
  | done : Segmented [] [] none
  | waiting {t : Text} {fd : Nat} (h : Bare t fd) : Segmented [t] [] (some fd)
  | bare {t target : Text} {fd : Nat} {ts : List Text} {its : List Item} {waiting : Option Nat}
      (h : Bare t fd) (hs : Segmented ts its waiting) :
      Segmented (t :: target :: ts) (.redirect fd target :: its) waiting
  | glued {t target : Text} {fd : Nat} {ts : List Text} {its : List Item} {waiting : Option Nat}
      (h : Glued t fd target) (hs : Segmented ts its waiting) :
      Segmented (t :: ts) (.redirect fd target :: its) waiting
  | word {t : Text} {ts : List Text} {its : List Item} {waiting : Option Nat}
      (hb : ∀ fd, ¬ Bare t fd) (hg : ∀ fd target, ¬ Glued t fd target)
      (hs : Segmented ts its waiting) : Segmented (t :: ts) (.word t :: its) waiting

/-- Words with a `>` that are no redirections: the sign is doubled, something else than digits stands
before it, the number is too large, or the target goes on in another line. -/
inductive Lookalike : Text → Prop
  | doubled {digits : Text} (hd : ∀ c ∈ digits, c.isDigit = true) (rest : Text) :
      Lookalike (digits ++ '>' :: '>' :: rest)
  | lettered {before : Text} (hn : '>' ∉ before) (hc : ∃ c ∈ before, c.isDigit = false)
      (rest : Text) : Lookalike (before ++ '>' :: rest)
  | large {digits : Text} (hd : ∀ c ∈ digits, c.isDigit = true)
      (hv : 2 ^ 32 ≤ Nat.ofDigitChars 10 digits 0) (rest : Text) : Lookalike (digits ++ '>' :: rest)
  | broken {digits : Text} (hd : ∀ c ∈ digits, c.isDigit = true) (c : Char) {cs : Text}
      (hn : '\n' ∈ cs) : Lookalike (digits ++ '>' :: c :: cs)

theorem isDecimal_eq_isDigit (c : Char) : isDecimal c = c.isDigit := by
  simp [isDecimal, Char.isDigit, Char.le_def]

theorem decimalValue_eq_ofDigitChars (digits : Text) :
    decimalValue digits = Nat.ofDigitChars 10 digits 0 := by
  rw [Nat.ofDigitChars_eq_foldl, decimalValue]
  simp only [Nat.mul_comm]

theorem descriptorLimit_eq : descriptorLimit = 2 ^ 32 := rfl

/-- The descriptors that are read are those that are denoted. -/
theorem denotes_iff :
    Denotes digits fd ↔ (∀ c ∈ digits, isDecimal c = true) ∧ descriptor? digits = some fd := by
  simp only [isDecimal_eq_isDigit]
  constructor
  · rintro (_ | ⟨hne, hd, hv⟩)
    · exact ⟨nofun, rfl⟩
    · refine ⟨hd, ?_⟩
      rw [← decimalValue_eq_ofDigitChars, ← descriptorLimit_eq] at hv
      rw [← decimalValue_eq_ofDigitChars, descriptor?, if_neg (by simpa using hne), if_pos hv]
  · rintro ⟨hd, hdesc⟩
    by_cases hne : digits = []
    · subst hne
      cases hdesc
      exact .nothing
    · rw [descriptor?, if_neg (by simpa using hne), decimalValue_eq_ofDigitChars] at hdesc
      split at hdesc
      · rename_i hv
        cases hdesc
        exact .number hne hd hv
      · cases hdesc

namespace Operator

theorem ofToken?_bare (h : Bare t fd) : ofToken? t = some (.bare fd) := by
  obtain ⟨digits, hd, rfl⟩ := h
  obtain ⟨hall, hdesc⟩ := denotes_iff.1 hd
  rw [ofToken?_append hall, hdesc]
  rfl

theorem ofToken?_glued (h : Glued t fd target) : ofToken? t = some (.glued fd target) := by
  obtain ⟨digits, c, cs, hd, rfl, hc, hn, rfl⟩ := h
  obtain ⟨hall, hdesc⟩ := denotes_iff.1 hd
  rw [ofToken?_append hall, hdesc]
  simp [hc, hn]

/-- A word is taken for nothing but what it is. -/
theorem of_ofToken? {op : Operator} (h : ofToken? t = some op) :
    (∃ fd, op = .bare fd ∧ Bare t fd) ∨ ∃ fd target, op = .glued fd target ∧ Glued t fd target := by
  obtain ⟨digits, rest, rfl, hall, -, -⟩ := redirecting_of_ofToken? (Option.isSome_of_eq_some h)
  rw [ofToken?_append hall] at h
  cases rest with
  | nil =>
    obtain ⟨fd, hdesc, rfl⟩ := Option.map_eq_some_iff.1 h
    exact Or.inl ⟨fd, rfl, digits, denotes_iff.2 ⟨hall, hdesc⟩, rfl⟩
  | cons c cs =>
    dsimp only at h
    split at h
    · cases h
    · rename_i hno
      obtain ⟨hc, hn⟩ := not_or.1 hno
      obtain ⟨fd, hdesc, rfl⟩ := Option.map_eq_some_iff.1 h
      exact Or.inr ⟨fd, _, rfl, digits, c, cs, denotes_iff.2 ⟨hall, hdesc⟩, rfl, hc, hn, rfl⟩

theorem ofToken?_eq_none_iff :
    ofToken? t = none ↔ (∀ fd, ¬ Bare t fd) ∧ ∀ fd target, ¬ Glued t fd target := by
  constructor
  · intro h
    refine ⟨fun fd hb => ?_, fun fd target hg => ?_⟩
    · exact nomatch h.symm.trans (ofToken?_bare hb)
    · exact nomatch h.symm.trans (ofToken?_glued hg)
  · rintro ⟨hb, hg⟩
    cases h : ofToken? t with
    | none => rfl
    | some op =>
      rcases of_ofToken? h with ⟨fd, -, hbare⟩ | ⟨fd, target, -, hglued⟩
      · exact absurd hbare (hb fd)
      · exact absurd hglued (hg fd target)

theorem ofToken?_lookalike (h : Lookalike t) : ofToken? t = none := by
  cases h with
  | doubled hd rest =>
    rw [ofToken?_append fun c hc => (isDecimal_eq_isDigit c).trans (hd c hc)]
    simp
  | lettered hn hc rest =>
    refine ofToken?_eq_none ?_
    rintro ⟨digits, rest', he, hall, -, -⟩
    have hsign : ∀ c ∈ digits, (c != '>') = true := by
      intro c hc
      refine bne_iff_ne.2 fun hgt => ?_
      have hdigit := hall c hc
      rw [hgt, isDecimal_gt] at hdigit
      cases hdigit
    have hplain : ∀ c ∈ _, (c != '>') = true := fun c hc => bne_iff_ne.2 fun hgt => hn (hgt ▸ hc)
    have htake := congrArg (List.takeWhile (· != '>')) he
    rw [List.takeWhile_append_of_pos hsign, List.takeWhile_append_of_pos hplain] at htake
    simp only [List.takeWhile_cons, bne_self_eq_false, Bool.false_eq_true, ↓reduceIte,
      List.append_nil] at htake
    obtain ⟨c, hmem, hletter⟩ := hc
    rw [htake] at hmem
    have hdigit := hall c hmem
    rw [isDecimal_eq_isDigit, hletter] at hdigit
    cases hdigit
  | large hd hv rest =>
    rename_i digits
    have hne : digits ≠ [] := by
      rintro rfl
      exact absurd hv (by decide)
    have hnone : descriptor? digits = none := by
      rw [descriptor?, if_neg (by simpa using hne), decimalValue_eq_ofDigitChars,
        descriptorLimit_eq, if_neg (Nat.not_lt.2 hv)]
    rw [ofToken?_append fun c hc => (isDecimal_eq_isDigit c).trans (hd c hc), hnone]
    cases rest <;> simp
  | broken hd c hn =>
    rw [ofToken?_append fun c hc => (isDecimal_eq_isDigit c).trans (hd c hc)]
    simp [hn]

end Operator

/-- Every list of words has its items. -/
theorem segmented_items (ts : List Text) : ∃ waiting, Segmented ts (items ts) waiting := by
  fun_induction items ts with
  | case1 => exact ⟨none, .done⟩
  | case2 t rest fd target ht ih =>
    obtain ⟨waiting, hs⟩ := ih
    rcases Operator.of_ofToken? ht with ⟨_, he, _⟩ | ⟨_, _, he, hg⟩
    · cases he
    · cases he
      exact ⟨waiting, .glued hg hs⟩
  | case3 t fd ht =>
    rcases Operator.of_ofToken? ht with ⟨_, he, hb⟩ | ⟨_, _, he, _⟩
    · cases he
      exact ⟨some fd, .waiting hb⟩
    · cases he
  | case4 t fd ht target rest ih =>
    obtain ⟨waiting, hs⟩ := ih
    rcases Operator.of_ofToken? ht with ⟨_, he, hb⟩ | ⟨_, _, he, _⟩
    · cases he
      exact ⟨waiting, .bare hb hs⟩
    · cases he
  | case5 t rest ht ih =>
    obtain ⟨waiting, hs⟩ := ih
    obtain ⟨hb, hg⟩ := Operator.ofToken?_eq_none_iff.1 ht
    exact ⟨waiting, .word hb hg hs⟩

/-- And no others. -/
theorem Segmented.items_eq (h : Segmented ts its waiting) : items ts = its := by
  induction h with
  | done => rfl
  | waiting h => simp [items, Operator.ofToken?_bare h]
  | bare h hs ih => simp [items, Operator.ofToken?_bare h, ih]
  | glued h hs ih => simp [items, Operator.ofToken?_glued h, ih]
  | word hb hg hs ih => simp [items, Operator.ofToken?_eq_none_iff.2 ⟨hb, hg⟩, ih]

theorem Segmented.extract_eq (h : Segmented ts its waiting) :
    extract ts = (its.filterMap Item.word?, redirects its) := by
  rw [extract, h.items_eq, words]

theorem extract_word (h : Operator.ofToken? t = none) (ts : List Text) :
    extract (t :: ts) = (t :: (extract ts).1, (extract ts).2) := by
  simp [extract, items, h, words, redirects, Item.word?]

/-- The words that stay are those that are no operators and no targets of operators, in their order,
and each descriptor has the target of its last operator. A word that only looks like an operator
stays, and the word after it is read as if nothing stood before it. -/
theorem extract_segments (ts : List Text) :
    (∃ its waiting, Segmented ts its waiting ∧
      (∀ its' waiting', Segmented ts its' waiting' → its' = its) ∧
      (extract ts).1 = its.filterMap Item.word? ∧ (extract ts).2.Ascending ∧
      ∀ fd, (extract ts).2.target? fd = lastTarget? fd its) ∧
    ∀ t, Lookalike t → extract (t :: ts) = (t :: (extract ts).1, (extract ts).2) := by
  obtain ⟨waiting, hs⟩ := segmented_items ts
  obtain ⟨hasc, htargets⟩ := redirects_spec (items ts)
  refine ⟨⟨items ts, waiting, hs, fun its' waiting' hs' => hs'.items_eq.symm, rfl, hasc, htargets⟩, ?_⟩
  exact fun t ht => extract_word (Operator.ofToken?_lookalike ht) ts

example :
    (extract [">>x", "2>", "1>", "a>b", "007>z", "4294967296>", "k", "0>\nq", ">a\nb", "2>"]).2 =
      [(0, "\nq".toList), (2, "1>".toList), (7, "z".toList)] := by
  decide +kernel

/-- Words after which no operator waits are read apart from those that follow. -/
theorem Segmented.append (h : Segmented ts its none) (h' : Segmented us its' waiting) :
    Segmented (ts ++ us) (its ++ its') waiting := by
  generalize hn : (none : Option Nat) = unmet at h
  induction h with
  | done => exact h'
  | waiting h => cases hn
  | bare h hs ih => exact .bare h (ih hn)
  | glued h hs ih => exact .glued h (ih hn)
  | word hb hg hs ih => exact .word hb hg (ih hn)

theorem Denotes.isDigit (h : Denotes digits fd) : ∀ c ∈ digits, c.isDigit = true := by
  cases h with
  | nothing => exact nofun
  | number hne hd hv => exact hd

/-- An operator says the same with its target in it as with its target after it, unless the target
goes on in another line: then the one word is none but a word. -/
theorem extract_glued_iff (hd : Denotes digits fd) (ht : target ≠ []) (hg : target.head? ≠ some '>')
    (hts : Segmented ts its none) (us : List Text) :
    extract (ts ++ [digits ++ '>' :: target] ++ us) =
        extract (ts ++ [digits ++ ['>'], target] ++ us) ↔ '\n' ∉ target.tail := by
  obtain ⟨c, cs, rfl⟩ := List.exists_cons_of_ne_nil ht
  have hc : c ≠ '>' := fun h => hg (congrArg some h)
  obtain ⟨waiting, hus⟩ := segmented_items us
  have hapart : Segmented (ts ++ [digits ++ ['>'], c :: cs] ++ us)
      (its ++ .redirect fd (c :: cs) :: items us) waiting := by
    rw [List.append_assoc]
    exact hts.append (.bare ⟨digits, hd, rfl⟩ hus)
  rw [hapart.extract_eq, List.append_assoc]
  constructor
  · intro he hn
    have hlook : Lookalike (digits ++ '>' :: c :: cs) := .broken hd.isDigit c hn
    obtain ⟨hb, hg'⟩ := Operator.ofToken?_eq_none_iff.1 (Operator.ofToken?_lookalike hlook)
    have hword : Segmented (ts ++ (digits ++ '>' :: c :: cs) :: us)
        (its ++ .word (digits ++ '>' :: c :: cs) :: items us) waiting := hts.append (.word hb hg' hus)
    rw [List.singleton_append, hword.extract_eq] at he
    have hlength := congrArg (·.1.length) he
    simp only [List.filterMap_append, List.filterMap_cons, Item.word?, List.length_append,
      List.length_cons] at hlength
    omega
  · intro hn
    have hglued : Segmented (ts ++ (digits ++ '>' :: c :: cs) :: us)
        (its ++ .redirect fd (c :: cs) :: items us) waiting :=
      hts.append (.glued ⟨digits, c, cs, hd, rfl, hc, hn, rfl⟩ hus)
    rw [List.singleton_append, hglued.extract_eq]

theorem denotes_two : Denotes "02" 2 :=
  .number (by decide) (List.all_eq_true.1 (by decide)) (by decide)

theorem extract_glued_sample :
    Denotes "02" 2 ∧ Segmented ["x", ">", "2>"] [.word "x", .redirect 1 "2>"] none ∧
      extract ["x", ">", "2>", "02>\nb c", "y"] =
        extract ["x", ">", "2>", "02>", "\nb c", "y"] := by
  have hx : Operator.ofToken? "x" = none := by decide
  obtain ⟨hb, hg⟩ := Operator.ofToken?_eq_none_iff.1 hx
  have hsettled : Segmented ["x", ">", "2>"] [.word "x", .redirect 1 "2>"] none :=
    .word hb hg (.bare ⟨[], .nothing, rfl⟩ .done)
  have htarget : ("\nb c" : Text) ≠ [] := by decide
  exact ⟨denotes_two, hsettled,
    (extract_glued_iff denotes_two htarget (by decide) hsettled ["y"]).2 (by decide)⟩

/-- A target of two lines is lost in the operator's own word. -/
theorem extract_broken_target :
    Denotes "02" 2 ∧ ("a\nb" : Text) ≠ [] ∧ ("a\nb" : Text).head? ≠ some '>' ∧
      Segmented [] [] none ∧
      extract ["02>a\nb"] ≠ extract ["02>", "a\nb"] :=
  ⟨denotes_two, by decide, by decide, .done, by decide +kernel⟩

end CommandShell
