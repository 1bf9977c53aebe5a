import CommandShell.Disk.Walk
import CommandShell.Proofs.Path.Landing
/-! Normalizing an absolute path makes it no longer and brings no character into it. -/
namespace CommandShell.Path

variable {p : Text} {here l : Location} {names : List Text} {c : Char}

theorem byteLength_append (s t : Text) : byteLength (s ++ t) = byteLength s + byteLength t := by
  simp [byteLength, Utf8.encode]

/-- How long names are, each with a slash ahead. -/
def weight : List Text → Nat
  | [] => 0
  | name :: names => byteLength name + 1 + weight names

theorem weight_append (names more : List Text) :
    weight (names ++ more) = weight names + weight more := by
  induction names with
  | nil => exact (Nat.zero_add _).symm
  | cons name names ih => rw [List.cons_append, weight, weight, ih, ← Nat.add_assoc]

theorem weight_reverse (names : List Text) : weight names.reverse = weight names := by
  induction names with
  | nil => rfl
  | cons name names ih =>
    rw [List.reverse_cons, weight_append, ih, weight, weight, weight, Nat.add_zero, Nat.add_comm]

theorem weight_tail_le (names : List Text) : weight names.tail ≤ weight names := by
  cases names with
  | nil => exact Nat.le_refl _
  | cons name names =>
    rw [weight]
    exact Nat.le_add_left _ _

theorem weight_landing_le (here : Location) (stretches : List Text) :
    weight (landing here stretches) ≤ weight here + weight stretches := by
  induction stretches generalizing here with
  | nil => exact Nat.le_add_right _ _
  | cons s rest ih =>
    have htail := weight_tail_le here
    rw [landing, weight]
    split
    · have hrest := ih here
      omega
    · split
      · have hrest := ih here.tail
        omega
      · have hrest := ih (s :: here)
        rw [weight] at hrest
        omega

theorem weight_segments (p : Text) : weight (segments p) = byteLength p + 1 := by
  induction p with
  | nil => rfl
  | cons c p ih =>
    have hlength : byteLength (c :: p) = byteLength [c] + byteLength p := byteLength_append [c] p
    rw [segments] at ih
    rw [segments, List.splitOn_cons_eq_if_modifyHead]
    split
    · rename_i hc
      obtain rfl : c = '/' := by simpa using hc
      have hslash : byteLength ['/'] = 1 := rfl
      have hempty : byteLength [] = 0 := rfl
      rw [weight, ih, hlength, hslash, hempty]
      omega
    · cases hs : p.splitOn '/' with
      | nil => exact absurd hs (List.splitOn_ne_nil '/' p)
      | cons s ss =>
        have hhead : byteLength (c :: s) = byteLength [c] + byteLength s := byteLength_append [c] s
        rw [hs, weight] at ih
        rw [List.modifyHead_cons, weight, hhead, hlength]
        omega

theorem byteLength_ofLocation (hl : ∀ n ∈ l, IsPlain n) :
    byteLength (ofLocation l) = if l = [] then 1 else weight l := by
  have hempty : byteLength [] = 0 := rfl
  have hw := weight_segments (ofLocation l)
  rw [segments_ofLocation hl, weight, hempty] at hw
  split
  · rename_i hnil
    rw [hnil]
    rfl
  · rename_i hne
    rw [if_neg hne, weight_reverse] at hw
    omega

theorem byteLength_normalize_le (h : isAbsolute p = true) :
    byteLength (normalize p) ≤ byteLength p := by
  obtain ⟨t, rfl⟩ : ∃ t, p = '/' :: t := by
    cases p with
    | nil => cases h
    | cons c t => exact ⟨t, by rw [show c = '/' by simpa [isAbsolute] using h]⟩
  have hlength : byteLength ('/' :: t) = 1 + byteLength t := byteLength_append ['/'] t
  have hland : landing [] ([] :: segments t) = landing [] (segments t) := rfl
  rw [normalize_eq h, byteLength_ofLocation (isPlain_of_mem_landing_segments _), segments_cons_slash,
    hland]
  split
  · omega
  · have hle := weight_landing_le [] (segments t)
    have hnone : weight [] = 0 := rfl
    rw [weight_segments, hnone] at hle
    omega

theorem mem_iff_mem_segments (hc : c ≠ '/') : c ∈ p ↔ ∃ s ∈ segments p, c ∈ s := by
  induction p with
  | nil => simp [segments]
  | cons a p ih =>
    rw [segments] at ih
    rw [segments, List.splitOn_cons_eq_if_modifyHead, List.mem_cons, ih]
    split
    · rename_i ha
      obtain rfl : a = '/' := by simpa using ha
      simp [hc]
    · cases hs : p.splitOn '/' with
      | nil => exact absurd hs (List.splitOn_ne_nil '/' p)
      | cons s ss => simp [or_assoc]

theorem mem_of_mem_normalize (h : isAbsolute p = true) (hc : c ≠ '/') (hm : c ∈ normalize p) :
    c ∈ p := by
  have hl := isPlain_of_mem_landing_segments p
  obtain ⟨s, hs, hcs⟩ := (mem_iff_mem_segments hc).1 hm
  refine (mem_iff_mem_segments hc).2 ⟨s, ?_, hcs⟩
  have hne : s ≠ [] := List.ne_nil_of_mem hcs
  rw [normalize_eq h, segments_ofLocation hl] at hs
  rcases List.mem_cons.1 hs with hnil | hs
  · exact absurd hnil hne
  · split at hs
    · exact absurd (List.mem_singleton.1 hs) hne
    · exact (mem_landing (List.mem_reverse.1 hs)).resolve_left List.not_mem_nil

end CommandShell.Path
