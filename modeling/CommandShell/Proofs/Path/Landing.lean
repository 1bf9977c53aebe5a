import CommandShell.Disk.Basic
import CommandShell.Proofs.Path.Normal
/-! Where a path lands when its text alone counts. Normalizing an absolute path spells that out. -/
namespace CommandShell.Path

variable {base p q name : Text} {here l : Location} {names stretches rest : List Text}

/-- Where the stretches of a path land, whatever the disk: `..` takes back the last name, and the
root is its own parent. -/
def landing : Location → List Text → Location
  | here, [] => here
  | here, s :: rest =>
    if s = [] ∨ s = ['.'] then landing here rest
    else if s = ['.', '.'] then landing here.tail rest
    else landing (s :: here) rest

/-- The path of names from the root to a location. -/
def ofLocation (l : Location) : Text := '/' :: Text.join ['/'] l.reverse

/-- An absolute path of names only, with one slash ahead of each. The root is one. -/
def IsPlainPath (p : Text) : Prop := ∃ l : Location, (∀ n ∈ l, IsPlain n) ∧ p = ofLocation l

theorem isAbsolute_ofLocation (l : Location) : isAbsolute (ofLocation l) = true := rfl

theorem landing_append (here : Location) (names rest : List Text) :
    landing here (names ++ rest) = landing (landing here names) rest := by
  induction names generalizing here with
  | nil => rfl
  | cons s names ih =>
    rw [List.cons_append, landing, landing]
    split
    · exact ih here
    · split
      · exact ih here.tail
      · exact ih (s :: here)

theorem landing_plain (hn : ∀ n ∈ names, IsPlain n) (here : Location) :
    landing here names = names.reverse ++ here := by
  induction names generalizing here with
  | nil => rfl
  | cons n names ih =>
    have hplain := hn n (List.mem_cons_self ..)
    rw [landing, if_neg (not_or.2 ⟨hplain.ne_nil, hplain.ne_dot⟩), if_neg hplain.ne_dots,
      ih fun m hm => hn m (List.mem_cons_of_mem n hm), List.reverse_cons, List.append_assoc,
      List.singleton_append]

/-- Names come from where one started or from the path. -/
theorem mem_landing (h : name ∈ landing here stretches) : name ∈ here ∨ name ∈ stretches := by
  induction stretches generalizing here with
  | nil => exact Or.inl h
  | cons s rest ih =>
    rw [landing] at h
    split at h
    · exact (ih h).imp_right (List.mem_cons_of_mem s)
    · split at h
      · exact (ih h).imp List.mem_of_mem_tail (List.mem_cons_of_mem s)
      · rcases ih h with hm | hm
        · rcases List.mem_cons.1 hm with rfl | hm
          · exact Or.inr (List.mem_cons_self ..)
          · exact Or.inl hm
        · exact Or.inr (List.mem_cons_of_mem s hm)

theorem isPlain_of_mem_landing (hh : ∀ n ∈ here, IsPlain n) (hs : ∀ s ∈ stretches, '/' ∉ s) :
    ∀ n ∈ landing here stretches, IsPlain n := by
  induction stretches generalizing here with
  | nil => exact hh
  | cons s rest ih =>
    have hrest : ∀ s' ∈ rest, '/' ∉ s' := fun s' hs' => hs s' (List.mem_cons_of_mem s hs')
    rw [landing]
    split
    · exact ih hh hrest
    · rename_i hblank
      split
      · exact ih (fun n hn => hh n (List.mem_of_mem_tail hn)) hrest
      · rename_i hdots
        obtain ⟨hnil, hdot⟩ := not_or.1 hblank
        refine ih (fun n hn => ?_) hrest
        rcases List.mem_cons.1 hn with rfl | hn
        · exact ⟨hnil, hdot, hdots, hs n (List.mem_cons_self ..)⟩
        · exact hh n hn

theorem isPlain_of_mem_landing_segments (p : Text) :
    ∀ n ∈ landing [] (segments p), IsPlain n :=
  isPlain_of_mem_landing (fun _ hn => absurd hn List.not_mem_nil) fun _ =>
    slash_notMem_of_mem_segments

/-- Names on a stack that has the root at its bottom. -/
def rooted (names : List Text) : List Component := names.map .name ++ [.root]

/-- Steps taken on such a stack land where their text says. -/
theorem foldl_advance_rooted (here : Location) (stretches : List Text) :
    (stretches.filterMap Component.ofSegment?).foldl advance (rooted here) =
      rooted (landing here stretches) := by
  induction stretches generalizing here with
  | nil => rfl
  | cons s rest ih =>
    rw [landing]
    split
    · rename_i hblank
      have hnone : Component.ofSegment? s = none := by rw [Component.ofSegment?, if_pos hblank]
      rw [List.filterMap_cons_none hnone]
      exact ih here
    · rename_i hblank
      split
      · rename_i hdots
        have hsome : Component.ofSegment? s = some .parent := by
          rw [Component.ofSegment?, if_neg hblank, if_pos hdots]
        have hstep : advance (rooted here) .parent = rooted here.tail := by cases here <;> rfl
        rw [List.filterMap_cons_some hsome, List.foldl_cons, hstep]
        exact ih here.tail
      · rename_i hdots
        have hsome : Component.ofSegment? s = some (.name s) := by
          rw [Component.ofSegment?, if_neg hblank, if_neg hdots]
        have hstep : advance (rooted here) (.name s) = rooted (s :: here) := rfl
        rw [List.filterMap_cons_some hsome, List.foldl_cons, hstep]
        exact ih (s :: here)

/-- An absolute path is normalized to the path of where it lands. -/
theorem normalize_eq (h : isAbsolute p = true) :
    normalize p = ofLocation (landing [] (segments p)) := by
  have hcs : collapse (components p) =
      .root :: (landing [] (segments p)).reverse.map .name := by
    have hroot : advance [] .root = rooted [] := rfl
    rw [collapse, components_absolute h, List.foldl_cons, hroot, foldl_advance_rooted]
    simp [rooted]
  rw [normalize, hcs, ofComponents, map_text_names, ofLocation]

theorem isPlainPath_normalize (h : isAbsolute p = true) : IsPlainPath (normalize p) :=
  ⟨_, isPlain_of_mem_landing_segments p, normalize_eq h⟩

theorem normalize_of_landing (h : isAbsolute p = true) (hl : l = landing [] (segments p)) :
    (∀ n ∈ l, IsPlain n) ∧ normalize p = ofLocation l := by
  subst hl
  exact ⟨isPlain_of_mem_landing_segments p, normalize_eq h⟩

theorem isAbsolute_normalize (h : isAbsolute p = true) : isAbsolute (normalize p) = true := by
  rw [isAbsolute_normalize_eq, h]

theorem segments_ofLocation (hl : ∀ n ∈ l, IsPlain n) :
    segments (ofLocation l) = [] :: if l = [] then [[]] else l.reverse := by
  rw [ofLocation, segments_names fun n hn => hl n (List.mem_reverse.1 hn)]
  simp only [List.reverse_eq_nil_iff]

theorem landing_ofLocation (hl : ∀ n ∈ l, IsPlain n) :
    landing [] (segments (ofLocation l)) = l := by
  rw [segments_ofLocation hl, landing, if_pos (Or.inl rfl)]
  split
  · rename_i hnil
    rw [hnil]
    rfl
  · rw [landing_plain fun n hn => hl n (List.mem_reverse.1 hn), List.reverse_reverse,
      List.append_nil]

theorem IsPlainPath.isAbsolute (h : IsPlainPath p) : Path.isAbsolute p = true := by
  obtain ⟨l, -, rfl⟩ := h
  rfl

/-- One location has one such path. -/
theorem IsPlainPath.eq_ofLocation (h : IsPlainPath p) :
    p = ofLocation (landing [] (segments p)) := by
  obtain ⟨l, hl, rfl⟩ := h
  rw [landing_ofLocation hl]

/-- A relative path seen from a directory lands where it does from there. -/
theorem landing_join (hb : base ≠ []) (hp : isAbsolute p = false) (here : Location) :
    landing here (segments (join base p)) = landing (landing here (segments base)) (segments p) := by
  have hstem : landing here (stem base) = landing here (segments base) := by
    rcases segments_eq_stem base with he | he
    · rw [he]
    · rw [he, landing_append]
      rfl
  rw [segments_join hb hp, landing_append, hstem]

theorem normalize_join (hb : isAbsolute base = true) (hp : isAbsolute p = false) :
    normalize (join base p) = ofLocation (landing (landing [] (segments base)) (segments p)) := by
  rw [normalize_eq (isAbsolute_join hb p), landing_join (ne_nil_of_isAbsolute hb) hp]

/-- What is seen from where a relative path leads is seen along both at once. -/
theorem normalize_join_join (hb : isAbsolute base = true) (hne : p ≠ [])
    (hp : isAbsolute p = false) (hq : isAbsolute q = false) :
    normalize (join (normalize (join base p)) q) = normalize (join base (p ++ '/' :: q)) := by
  have habs := isAbsolute_join hb p
  have hboth : isAbsolute (p ++ '/' :: q) = false := by rw [isAbsolute_append_of_ne_nil hne, hp]
  rw [normalize_join_normalize _ hq, normalize_join habs hq,
    landing_join (ne_nil_of_isAbsolute hb) hp, normalize_join hb hboth, segments_slash,
    landing_append]

theorem normalize_join_dot (h : isAbsolute p = true) :
    normalize (join (normalize p) ['.']) = normalize p := by
  rw [normalize_join_normalize p rfl, normalize_join h rfl, normalize_eq h]
  rfl

theorem dotless_normalize (h : isAbsolute p = true) : Dotless (normalize p) := by
  have hplain := isPlain_of_mem_landing_segments p
  have hmem : ∀ s ∈ segments (normalize p), s = [] ∨ IsPlain s := by
    intro s hs
    rw [normalize_eq h, segments_ofLocation hplain] at hs
    rcases List.mem_cons.1 hs with rfl | hs
    · exact Or.inl rfl
    · split at hs
      · exact Or.inl (List.mem_singleton.1 hs)
      · exact Or.inr (hplain s (List.mem_reverse.1 hs))
  refine ⟨fun hs => ?_, fun hs => ?_⟩
  · rcases hmem _ hs with h | h
    · cases h
    · exact h.ne_dot rfl
  · rcases hmem _ hs with h | h
    · cases h
    · exact h.ne_dots rfl

end CommandShell.Path
