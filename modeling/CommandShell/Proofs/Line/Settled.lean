import CommandShell.Proofs.Line.Segments
/-! Lists of words in two parts. What redirects is found in one pass, and each part can be passed by
itself unless an operator at the end of the first waits for its target. -/
namespace CommandShell

variable {t : Text} {fd : Nat} {ts us : List Text} {its its' : List Item} {rs rs' : Redirects}
  {waiting : Option Nat}

/-- No operator waits at the end. -/
def Settled (ts : List Text) : Prop := ∃ its, Segmented ts its none

namespace Redirects

/-- The redirections, except where there are others for the same descriptors. -/
def override (rs more : Redirects) : Redirects := more.foldl (fun rs r => rs.insert r.1 r.2) rs

theorem ascending_override (h : rs.Ascending) (more : Redirects) : (rs.override more).Ascending := by
  induction more generalizing rs with
  | nil => exact h
  | cons r more ih => exact ih (ascending_insert h)

theorem target?_override {more : Redirects} (h : more.Ascending) (rs : Redirects) (fd : Nat) :
    (rs.override more).target? fd = (more.target? fd).or (rs.target? fd) := by
  induction more generalizing rs with
  | nil => rfl
  | cons r more ih =>
    obtain ⟨hr, hmore⟩ := List.pairwise_cons.1 h
    have hnext := ih hmore (rs.insert r.1 r.2)
    have hunfold : rs.override (r :: more) = (rs.insert r.1 r.2).override more := rfl
    rw [hunfold, hnext, target?_insert, target?_cons]
    by_cases hfd : fd = r.1
    · subst hfd
      have hnone : target? more r.1 = none := target?_eq_none fun q hq => Nat.ne_of_gt (hr q hq)
      simp [hnone]
    · simp [hfd]

theorem head_le_of_target? {n m : Nat} {t u : Text} (h : Ascending ((m, u) :: rs'))
    (he : target? ((m, u) :: rs') n = some t) : m ≤ n := by
  by_contra hlt
  have hnone : target? ((m, u) :: rs') n = none := by
    refine target?_eq_none fun r hr => Nat.ne_of_gt ?_
    rcases List.mem_cons.1 hr with rfl | hr
    · exact Nat.not_le.1 hlt
    · exact Nat.lt_trans (Nat.not_le.1 hlt) ((List.pairwise_cons.1 h).1 r hr)
  rw [hnone] at he
  cases he

/-- What is looked up determines the redirections, since the descriptors rise. -/
theorem Ascending.ext (h : rs.Ascending) (h' : rs'.Ascending)
    (he : ∀ fd, rs.target? fd = rs'.target? fd) : rs = rs' := by
  induction rs generalizing rs' with
  | nil =>
    cases rs' with
    | nil => rfl
    | cons r' rs' =>
      have hr' := he r'.1
      rw [target?_cons, if_pos rfl] at hr'
      cases hr'
  | cons r rs ih =>
    obtain ⟨n, t⟩ := r
    have hn : target? ((n, t) :: rs) n = some t := by rw [target?_cons, if_pos rfl]
    cases rs' with
    | nil =>
      rw [he n] at hn
      cases hn
    | cons r' rs' =>
      obtain ⟨m, u⟩ := r'
      have hm : target? ((m, u) :: rs') m = some u := by rw [target?_cons, if_pos rfl]
      have hmn : m = n := Nat.le_antisymm (head_le_of_target? h' ((he n).symm.trans hn))
        (head_le_of_target? h ((he m).trans hm))
      subst hmn
      obtain rfl : t = u := Option.some.inj (hn.symm.trans ((he m).trans hm))
      obtain ⟨hr, hrs⟩ := List.pairwise_cons.1 h
      obtain ⟨hr', hrs'⟩ := List.pairwise_cons.1 h'
      rw [ih hrs hrs' fun fd => ?_]
      by_cases hfd : fd = m
      · rw [hfd, target?_eq_none fun q hq => Nat.ne_of_gt (hr q hq),
          target?_eq_none fun q hq => Nat.ne_of_gt (hr' q hq)]
      · have hrest := he fd
        rwa [target?_cons, target?_cons, if_neg hfd, if_neg hfd] at hrest

end Redirects

/-- The last redirection of a descriptor is in the second part, if there is one. -/
theorem lastTarget?_append (fd : Nat) (its its' : List Item) :
    lastTarget? fd (its ++ its') = (lastTarget? fd its').or (lastTarget? fd its) := by
  rw [lastTarget?, List.reverse_append, List.findSome?_append]
  rfl

theorem redirects_append (its its' : List Item) :
    redirects (its ++ its') = (redirects its).override (redirects its') := by
  obtain ⟨hasc, htarget⟩ := redirects_spec (its ++ its')
  obtain ⟨hasc₁, htarget₁⟩ := redirects_spec its
  obtain ⟨hasc₂, htarget₂⟩ := redirects_spec its'
  refine hasc.ext (Redirects.ascending_override hasc₁ _) fun fd => ?_
  rw [htarget, Redirects.target?_override hasc₂, htarget₁, htarget₂, lastTarget?_append]

theorem words_append (its its' : List Item) : words (its ++ its') = words its ++ words its' :=
  List.filterMap_append ..

/-- Words after which no operator waits are passed by themselves. -/
theorem extract_append (h : Settled ts) (us : List Text) :
    extract (ts ++ us) =
      ((extract ts).1 ++ (extract us).1, (extract ts).2.override (extract us).2) := by
  obtain ⟨its, hts⟩ := h
  obtain ⟨waiting, hus⟩ := segmented_items us
  rw [(hts.append hus).extract_eq, hts.extract_eq, hus.extract_eq, redirects_append]
  exact congrArg (·, _) (words_append its (items us))

/-- The first word of the second part is the target that was waited for. -/
theorem Segmented.target (h : Segmented ts its (some fd)) (h' : Segmented us its' waiting)
    (t : Text) : Segmented (ts ++ t :: us) (its ++ .redirect fd t :: its') waiting := by
  generalize hn : some fd = unmet at h
  induction h with
  | done => cases hn
  | waiting h =>
    cases hn
    exact .bare h h'
  | bare h hs ih => exact .bare h (ih hn)
  | glued h hs ih => exact .glued h (ih hn)
  | word hb hg hs ih => exact .word hb hg (ih hn)

theorem settled_of_extract_append
    (h : ∀ us, (extract (ts ++ us)).1 = (extract ts).1 ++ (extract us).1) : Settled ts := by
  obtain ⟨waiting, hts⟩ := segmented_items ts
  cases waiting with
  | none => exact ⟨_, hts⟩
  | some fd =>
    have hx : Operator.ofToken? ['x'] = none := by decide
    have hone := congrArg List.length (h [['x']])
    have hnone : [Item.redirect fd ['x']].filterMap Item.word? = [] := rfl
    rw [(hts.target .done ['x']).extract_eq, hts.extract_eq, extract_word hx, List.filterMap_append,
      hnone, List.length_append, List.length_append] at hone
    simp at hone

/-- The words that stay are words of the list, and no operators. -/
theorem Segmented.of_mem_words (h : Segmented ts its waiting) :
    ∀ t ∈ words its, t ∈ ts ∧ Operator.ofToken? t = none := by
  induction h with
  | done => exact fun _ ht => absurd ht List.not_mem_nil
  | waiting h => exact fun _ ht => absurd ht List.not_mem_nil
  | bare h hs ih => exact fun u hu => ⟨by simp [(ih u hu).1], (ih u hu).2⟩
  | glued h hs ih => exact fun u hu => ⟨List.mem_cons_of_mem _ (ih u hu).1, (ih u hu).2⟩
  | word hb hg hs ih =>
    intro u hu
    rcases List.mem_cons.1 hu with rfl | hu
    · exact ⟨List.mem_cons_self .., Operator.ofToken?_eq_none_iff.2 ⟨hb, hg⟩⟩
    · exact ⟨List.mem_cons_of_mem _ (ih u hu).1, (ih u hu).2⟩

theorem extract_plain (h : ∀ t ∈ ts, Operator.ofToken? t = none) : extract ts = (ts, []) := by
  induction ts with
  | nil => rfl
  | cons t ts ih =>
    rw [extract_word (h t (List.mem_cons_self ..)), ih fun u hu => h u (List.mem_cons_of_mem t hu)]

/-- One pass finds everything that redirects, so the words that stay are all words in a second one.
A list falls into two parts that are passed each by itself exactly if no operator waits between them,
and of two redirections of a descriptor the later part's counts. -/
theorem extract_in_parts (ts : List Text) :
    extract (extract ts).1 = ((extract ts).1, []) ∧
      (Settled ts ↔ ∀ us, extract (ts ++ us) =
        ((extract ts).1 ++ (extract us).1, (extract ts).2.override (extract us).2)) ∧
      ∀ us fd, ((extract ts).2.override (extract us).2).target? fd =
        ((extract us).2.target? fd).or ((extract ts).2.target? fd) := by
  obtain ⟨waiting, hts⟩ := segmented_items ts
  refine ⟨extract_plain fun t ht => (hts.of_mem_words t ht).2, ⟨extract_append, fun h => ?_⟩, ?_⟩
  · exact settled_of_extract_append fun us => congrArg Prod.fst (h us)
  · intro us fd
    exact Redirects.target?_override (redirects_spec (items us)).1 _ fd

/-- The last target before the cut looks like an operator, one descriptor has targets on both sides of
it, and at the end an operator is dropped. -/
theorem extract_in_parts_sample :
    Settled ["x", ">a", "02>", ">"] ∧
      extract ["x", ">a", "02>", ">", ">b", "y", "1>"] =
        (["x".toList, "y".toList], [(1, "b".toList), (2, ">".toList)]) := by
  have hx : Operator.ofToken? "x" = none := by decide
  obtain ⟨hb, hg⟩ := Operator.ofToken?_eq_none_iff.1 hx
  have ha : Glued ">a" 1 "a" := ⟨[], 'a', [], .nothing, rfl, by decide, List.not_mem_nil, rfl⟩
  have hs : Settled ["x", ">a", "02>", ">"] :=
    ⟨_, .word hb hg (.glued ha (.bare ⟨_, denotes_two, rfl⟩ .done))⟩
  have hparts := (extract_in_parts _).2.1.1 hs [">b", "y", "1>"]
  exact ⟨hs, hparts.trans (by decide +kernel)⟩

end CommandShell
