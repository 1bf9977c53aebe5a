import CommandShell.Path
/-! Paths cut at their slashes, and paths seen from others. -/
namespace CommandShell.Path

variable {base p q name : Text} {c : Component} {cs : List Component}

theorem segments_slash (p q : Text) : segments (p ++ '/' :: q) = segments p ++ segments q :=
  List.splitOn_append_cons_self ..

theorem segments_cons_slash (p : Text) : segments ('/' :: p) = [] :: segments p :=
  segments_slash [] p

theorem slash_notMem_of_mem_segments (h : name ∈ segments p) : '/' ∉ name :=
  Text.notMem_of_mem_splitOn h

/-- A stretch of a path that stands for a name. -/
structure IsPlain (name : Text) : Prop where
  ne_nil : name ≠ []
  ne_dot : name ≠ ['.']
  ne_dots : name ≠ ['.', '.']
  slash_notMem : '/' ∉ name

/-- No stretch of the path is a dot or two. -/
def Dotless (p : Text) : Prop := ['.'] ∉ segments p ∧ ['.', '.'] ∉ segments p

instance (p : Text) : Decidable (Dotless p) := inferInstanceAs (Decidable (_ ∧ _))

/-- What a path is made of, but for the root and dots. -/
def IsStep (c : Component) : Prop := c = .parent ∨ ∃ n, c = .name n ∧ IsPlain n

theorem ofSegment?_cases (h : Component.ofSegment? name = some c)
    (hs : '/' ∉ name) : IsStep c := by
  unfold Component.ofSegment? at h
  split at h
  · cases h
  · rename_i hblank
    split at h
    · cases h
      exact Or.inl rfl
    · rename_i hdots
      cases h
      obtain ⟨hnil, hdot⟩ := not_or.1 hblank
      exact Or.inr ⟨name, rfl, hnil, hdot, hdots, hs⟩

theorem components_absolute (h : isAbsolute p = true) :
    components p = .root :: (segments p).filterMap Component.ofSegment? := by
  rw [components, if_pos h]

theorem map_text_names (names : List Text) :
    (names.map Component.name).map Component.text = names := by
  rw [List.map_map]
  exact List.map_id names

theorem isStep_of_mem_segments (p : Text) :
    ∀ c ∈ (segments p).filterMap Component.ofSegment?, IsStep c := by
  intro c hc
  obtain ⟨s, hs, he⟩ := List.mem_filterMap.1 hc
  exact ofSegment?_cases he (slash_notMem_of_mem_segments hs)

theorem ofSegment?_text (h : IsStep c) : Component.ofSegment? c.text = some c := by
  rcases h with rfl | ⟨n, rfl, hn⟩
  · rfl
  · rw [Component.text, Component.ofSegment?, if_neg (not_or.2 ⟨hn.ne_nil, hn.ne_dot⟩),
      if_neg hn.ne_dots]

theorem slash_notMem_text (h : IsStep c) : '/' ∉ c.text := by
  rcases h with rfl | ⟨n, rfl, hn⟩
  · decide
  · exact hn.slash_notMem

theorem isStep_of_mem_names {names : List Text} (h : ∀ n ∈ names, IsPlain n) :
    ∀ c ∈ names.map Component.name, IsStep c := by
  intro c hc
  obtain ⟨n, hn, rfl⟩ := List.mem_map.1 hc
  exact Or.inr ⟨n, rfl, h n hn⟩

/-- Steps written with a slash between neighbours are read again. -/
theorem segments_join_texts (h : ∀ c ∈ cs, IsStep c) :
    segments (Text.join ['/'] (cs.map Component.text)) =
      if cs = [] then [[]] else cs.map Component.text := by
  split
  · rename_i hnil
    rw [hnil]
    exact List.splitOn_nil ..
  · rename_i hne
    refine List.splitOn_intercalate '/' ?_ (by simpa using hne)
    rintro t ht
    obtain ⟨c, hc, rfl⟩ := List.mem_map.1 ht
    exact slash_notMem_text (h c hc)

theorem segments_names {names : List Text} (hn : ∀ n ∈ names, IsPlain n) :
    segments ('/' :: Text.join ['/'] names) = [] :: if names = [] then [[]] else names := by
  have hjoin := segments_join_texts (isStep_of_mem_names hn)
  rw [map_text_names] at hjoin
  rw [segments_cons_slash, hjoin]
  simp only [List.map_eq_nil_iff]

/-- The stretches of a directory's path, but for an empty one at its end. -/
def stem (base : Text) : List Text :=
  if base.getLast? = some '/' then segments base.dropLast else segments base

theorem segments_eq_stem (base : Text) :
    segments base = stem base ∨ segments base = stem base ++ [[]] := by
  unfold stem
  split
  · rename_i h
    obtain ⟨front, rfl⟩ := List.getLast?_eq_some_iff.1 h
    rw [List.dropLast_concat]
    exact Or.inr (segments_slash front [])
  · exact Or.inl rfl

theorem segments_join (hb : base ≠ []) (hp : isAbsolute p = false) :
    segments (join base p) = stem base ++ segments p := by
  unfold stem
  rw [join_eq, if_neg (by simp [hp])]
  by_cases hl : base.getLast? = some '/'
  · rw [if_pos (Or.inr hl), if_pos hl]
    obtain ⟨front, rfl⟩ := List.getLast?_eq_some_iff.1 hl
    rw [List.dropLast_concat, List.append_assoc]
    exact segments_slash front p
  · rw [if_neg (by simp [hb, hl]), if_neg hl, List.append_assoc]
    exact segments_slash base p

theorem ne_nil_of_isAbsolute (h : isAbsolute p = true) : p ≠ [] := by
  rintro rfl
  cases h

/-- The first character decides. -/
theorem isAbsolute_append_of_ne_nil (h : p ≠ []) (q : Text) :
    isAbsolute (p ++ q) = isAbsolute p := by
  cases p with
  | nil => exact absurd rfl h
  | cons c p => rfl

theorem isAbsolute_append (h : isAbsolute p = true) (q : Text) : isAbsolute (p ++ q) = true := by
  rw [isAbsolute_append_of_ne_nil (ne_nil_of_isAbsolute h), h]

theorem isAbsolute_join (h : isAbsolute base = true) (p : Text) :
    isAbsolute (join base p) = true := by
  rw [join_eq]
  split
  · assumption
  · split
    · exact isAbsolute_append h p
    · rw [List.append_assoc]
      exact isAbsolute_append h _

theorem eq_nil_of_join (h : join base p = []) : p = [] := by
  rw [join_eq] at h
  split at h
  · exact h
  · split at h
    · exact (List.append_eq_nil_iff.1 h).2
    · exact (List.append_eq_nil_iff.1 h).2

theorem join_nil_left (p : Text) : join [] p = p := by
  rw [join_eq]
  split <;> rfl

theorem isAbsolute_join_eq_false (hb : base ≠ []) (hr : isAbsolute base = false)
    (hp : isAbsolute p = false) : isAbsolute (join base p) = false := by
  cases base with
  | nil => exact absurd rfl hb
  | cons c base =>
    rw [join_eq, if_neg (by simp [hp])]
    split
    · exact hr
    · exact hr

/-- A relative path is seen alike from a directory and, with that one's path ahead, from another. -/
theorem join_assoc (hp : p ≠ []) (hr : isAbsolute p = false) (hn : isAbsolute name = false) :
    join (join base p) name = join base (join p name) := by
  have hlast : ∀ front : Text, (front ++ p).getLast? = p.getLast? := by
    intro front
    cases h : p.getLast? with
    | none => exact absurd (List.getLast?_eq_none_iff.1 h) hp
    | some c => simp [List.getLast?_append, h]
  have hjoin : ∀ front : Text,
      join (front ++ p) name = front ++ join p name := by
    intro front
    simp only [join_eq, hn, hlast, hp, List.append_eq_nil_iff, and_false, false_or, Bool.false_eq_true,
      if_false]
    split <;> simp
  have hrel := isAbsolute_join_eq_false hp hr hn
  have hunfold : ∀ q : Text, isAbsolute q = false →
      join base q =
        (if base = [] ∨ base.getLast? = some '/' then base else base ++ ['/']) ++ q := by
    intro q hq
    rw [join_eq, if_neg (by simp [hq])]
    split <;> rfl
  rw [hunfold p hr, hunfold _ hrel, hjoin]

theorem exists_ne_nil_of_relative (hp : p ≠ []) (hr : isAbsolute p = false) :
    ∃ s ∈ segments p, s ≠ [] := by
  cases p with
  | nil => exact absurd rfl hp
  | cons c p =>
    have hc : c ≠ '/' := by
      rintro rfl
      cases hr
    rw [segments, List.splitOn_cons_eq_if_modifyHead, if_neg (by simp [hc])]
    cases hs : p.splitOn '/' with
    | nil => exact absurd hs (List.splitOn_ne_nil '/' p)
    | cons s ss =>
      exact ⟨c :: s, List.mem_cons_self .., List.cons_ne_nil c s⟩

end CommandShell.Path
