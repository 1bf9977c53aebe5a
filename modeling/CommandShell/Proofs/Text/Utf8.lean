import CommandShell.Text.Utf8
/-! Decoding in pieces. A byte below 0x80 breaks off whatever sequence is under way and stands for
itself, and no other byte has a part in such a character. -/
namespace CommandShell.Utf8

variable {p : Partial} {s : State} {b : UInt8} {c : Char}

/-- What the first byte of a longer sequence begins, by the number of the byte. Where the range of
the next byte is shorter, it leaves out numbers that are written with fewer bytes, numbers of no
character, or numbers above all characters. -/
inductive Heads (n : Nat) : Partial → Prop
  | two (hlow : 0xC2 ≤ n) (hhigh : n ≤ 0xDF) : Heads n { value := n - 0xC0, missing := 1 }
  | firstThree (h : n = 0xE0) : Heads n { value := 0, missing := 2, low := 0xA0 }
  | gapThree (h : n = 0xED) : Heads n { value := 0xD, missing := 2, high := 0x9F }
  | three (hlow : 0xE1 ≤ n) (hhigh : n ≤ 0xEF) (h : n ≠ 0xED) :
      Heads n { value := n - 0xE0, missing := 2 }
  | firstFour (h : n = 0xF0) : Heads n { value := 0, missing := 3, low := 0x90 }
  | lastFour (h : n = 0xF4) : Heads n { value := 4, missing := 3, high := 0x8F }
  | four (hlow : 0xF1 ≤ n) (hhigh : n ≤ 0xF3) : Heads n { value := n - 0xF0, missing := 3 }

theorem lead_char_iff : lead b = .char c ↔ b.toNat < 0x80 ∧ Char.ofNat b.toNat = c := by
  unfold lead
  split
  · rename_i hb
    rw [Lead.char.injEq]
    exact ⟨fun h => ⟨UInt8.lt_iff_toNat_lt.1 hb, h⟩, And.right⟩
  · rename_i hb
    refine ⟨fun h => ?_, fun h => absurd (UInt8.lt_iff_toNat_lt.2 h.1) hb⟩
    repeat' split at h
    all_goals exact Lead.noConfusion h

theorem heads_of_lead (h : lead b = .sequence p) : Heads b.toNat p := by
  unfold lead at h
  simp only [UInt8.lt_iff_toNat_lt, UInt8.le_iff_toNat_le, ← UInt8.toNat_inj,
    UInt8.toNat_ofNat] at h
  split at h
  · exact Lead.noConfusion h
  split at h
  · obtain rfl := Lead.sequence.inj h
    rename_i hb
    exact .two hb.1 hb.2
  split at h
  · obtain rfl := Lead.sequence.inj h
    exact .firstThree ‹_›
  split at h
  · obtain rfl := Lead.sequence.inj h
    exact .gapThree ‹_›
  split at h
  · obtain rfl := Lead.sequence.inj h
    rename_i hgap hb
    exact .three hb.1 hb.2 hgap
  split at h
  · obtain rfl := Lead.sequence.inj h
    exact .firstFour ‹_›
  split at h
  · obtain rfl := Lead.sequence.inj h
    exact .lastFour ‹_›
  split at h
  · obtain rfl := Lead.sequence.inj h
    rename_i hb
    exact .four hb.1 hb.2
  · exact Lead.noConfusion h

theorem Heads.lead (h : Heads b.toNat p) : lead b = .sequence p := by
  unfold Utf8.lead
  simp only [UInt8.lt_iff_toNat_lt, UInt8.le_iff_toNat_le, ← UInt8.toNat_inj, UInt8.toNat_ofNat]
  cases h with
  | two hlow hhigh => rw [if_neg (by omega), if_pos ⟨hlow, hhigh⟩]
  | firstThree h => rw [if_neg (by omega), if_neg (by omega), if_pos h]
  | gapThree h => rw [if_neg (by omega), if_neg (by omega), if_neg (by omega), if_pos h]
  | three hlow hhigh h =>
    rw [if_neg (by omega), if_neg (by omega), if_neg (by omega), if_neg h, if_pos ⟨hlow, hhigh⟩]
  | firstFour h =>
    rw [if_neg (by omega), if_neg (by omega), if_neg (by omega), if_neg (by omega),
      if_neg (by omega), if_pos h]
  | lastFour h =>
    rw [if_neg (by omega), if_neg (by omega), if_neg (by omega), if_neg (by omega),
      if_neg (by omega), if_neg (by omega), if_pos h]
  | four hlow hhigh =>
    rw [if_neg (by omega), if_neg (by omega), if_neg (by omega), if_neg (by omega),
      if_neg (by omega), if_neg (by omega), if_neg (by omega), if_pos ⟨hlow, hhigh⟩]

theorem toNat_ofNat {n : Nat} (h : n.isValidChar) : (Char.ofNat n).toNat = n := by
  rw [Char.ofNat, dif_pos h]
  rfl

theorem toNat_ofNat_ascii (hb : b.toNat < 0x80) : (Char.ofNat b.toNat).toNat = b.toNat :=
  toNat_ofNat (Or.inl (by omega))

/-- What has been decoded of some bytes while the last sequence is still open. -/
def emitted : State → Bytes → Text
  | _, [] => []
  | s, b :: bs => (step s b).1 ++ emitted (step s b).2 bs

/-- The sequence that some bytes leave open. -/
def after (s : State) (bs : Bytes) : State := bs.foldl (fun s b => (step s b).2) s

theorem decodeFrom_append (s : State) (as bs : Bytes) :
    decodeFrom s (as ++ bs) = emitted s as ++ decodeFrom (after s as) bs := by
  induction as generalizing s with
  | nil => rfl
  | cons a as ih => rw [List.cons_append, decodeFrom, ih, emitted, List.append_assoc]; rfl

theorem decodeFrom_eq (s : State) (bs : Bytes) :
    decodeFrom s bs = emitted s bs ++ finish (after s bs) := by
  have h := decodeFrom_append s bs []
  rwa [List.append_nil] at h

/-- How many numbers can be written in so many bytes with six bits of the number in each. -/
def span : Nat → Nat
  | 0 => 1
  | n + 1 => 64 * span n

/-- The least number of a character that the sequence can still become. -/
def Partial.first (p : Partial) : Nat :=
  (p.value * 64 + (p.low.toNat - 0x80)) * span (p.missing - 1)

/-- The number after the greatest of such a character. -/
def Partial.bound (p : Partial) : Nat :=
  (p.value * 64 + (p.high.toNat - 0x80) + 1) * span (p.missing - 1)

/-- The sequence goes on with bytes from 0x80 on, and can become characters from 0x80 on only. -/
structure Partial.Wide (p : Partial) : Prop where
  low : 0x80 ≤ p.low.toNat
  scalar : ∀ v, p.first ≤ v → v < p.bound → v.isValidChar ∧ 0x80 ≤ v

/-- Whatever is under way is wide. -/
def Wide (s : State) : Prop := ∀ p, s = some p → p.Wide

theorem wide_none : Wide none := nofun

theorem Heads.wide {n : Nat} (h : Heads n p) : p.Wide := by
  cases h
  all_goals
    refine ⟨by simp, fun v hv hv' => ?_⟩
    simp [Partial.first, Partial.bound, span] at hv hv'
    unfold Nat.isValidChar
    omega

theorem Heads.range {n : Nat} (h : Heads n p) :
    p.low ≤ p.high ∧ p.high.toNat ≤ 0xBF ∧ 0 < p.missing := by
  cases h
  all_goals exact ⟨by simp, by simp, by simp⟩

theorem Partial.Wide.value_bounds (h : p.Wide) (ha : p.accepts b = true) :
    p.first ≤ (p.value * 64 + (b.toNat - 0x80)) * span (p.missing - 1) ∧
      (p.value * 64 + (b.toNat - 0x80) + 1) * span (p.missing - 1) ≤ p.bound := by
  simp only [accepts, Bool.and_eq_true, decide_eq_true_eq, UInt8.le_iff_toNat_le] at ha
  refine ⟨Nat.mul_le_mul_right _ ?_, Nat.mul_le_mul_right _ ?_⟩
  · have hlow := h.low
    omega
  · omega

/-- One more byte narrows the choice of characters down. -/
theorem Partial.Wide.take (h : p.Wide) (ha : p.accepts b = true) : Utf8.Wide (p.take b).2 := by
  obtain ⟨hfirst, hbound⟩ := h.value_bounds ha
  unfold Partial.take
  dsimp only
  split
  · exact wide_none
  · rename_i hm
    have hspan : span (p.missing - 1) = 64 * span (p.missing - 1 - 1) := by
      have hsucc : p.missing - 1 = p.missing - 1 - 1 + 1 := by omega
      rw [hsucc, span, ← hsucc]
    intro q hq
    obtain rfl := Option.some.inj hq
    refine ⟨by simp, fun v hv hv' => h.scalar v ?_ ?_⟩
    · refine Nat.le_trans hfirst (Nat.le_trans (Nat.le_of_eq ?_) hv)
      simp only [Partial.first, hspan]
      simp [Nat.mul_assoc]
    · refine Nat.lt_of_lt_of_le hv' (Nat.le_trans (Nat.le_of_eq ?_) hbound)
      simp only [Partial.bound, hspan, ← Nat.mul_assoc]
      simp [Nat.add_mul, Nat.add_assoc]

theorem wide_start (b : UInt8) : Wide (start b).2 := by
  unfold start
  split
  · exact wide_none
  · rintro _ ⟨rfl⟩
    exact (heads_of_lead ‹_›).wide
  · exact wide_none

theorem wide_step (h : Wide s) (b : UInt8) : Wide (step s b).2 := by
  unfold step
  split
  · exact wide_start b
  · split
    · exact (h _ rfl).take ‹_›
    · exact wide_start b

theorem wide_after (h : Wide s) (bs : Bytes) : Wide (after s bs) := by
  induction bs generalizing s with
  | nil => exact h
  | cons b bs ih => exact ih (wide_step h b)

theorem start_ascii (hb : b.toNat < 0x80) : start b = ([Char.ofNat b.toNat], none) := by
  rw [start, lead_char_iff.2 ⟨hb, rfl⟩]

/-- A byte below 0x80 breaks off the sequence under way and stands for itself. -/
theorem step_ascii (h : Wide s) (hb : b.toNat < 0x80) :
    step s b = (finish s ++ [Char.ofNat b.toNat], none) := by
  cases s with
  | none => exact start_ascii hb
  | some p =>
    have hlow := (h p rfl).low
    have ha : ¬ p.accepts b = true := by
      simp only [Partial.accepts, Bool.and_eq_true, decide_eq_true_eq, UInt8.le_iff_toNat_le]
      omega
    rw [step, if_neg ha, start_ascii hb]
    rfl

theorem replacement_wide : 0x80 ≤ replacement.toNat := by decide

theorem start_wide (hb : 0x80 ≤ b.toNat) (hc : c ∈ (start b).1) : 0x80 ≤ c.toNat := by
  unfold start at hc
  split at hc
  · exact absurd (lead_char_iff.1 ‹_›).1 (Nat.not_lt.2 hb)
  · cases hc
  · cases List.mem_singleton.1 hc
    exact replacement_wide

theorem Partial.Wide.take_wide (h : p.Wide) (ha : p.accepts b = true) (hc : c ∈ (p.take b).1) :
    0x80 ≤ c.toNat := by
  obtain ⟨hfirst, hbound⟩ := h.value_bounds ha
  unfold Partial.take at hc
  dsimp only at hc
  split at hc
  · rename_i hm
    have hone : p.missing - 1 = 0 := by omega
    rw [hone, span, Nat.mul_one] at hfirst hbound
    obtain ⟨hvalid, hwide⟩ := h.scalar _ hfirst hbound
    rwa [List.mem_singleton.1 hc, toNat_ofNat hvalid]
  · cases hc

/-- All other bytes give characters from 0x80 on. -/
theorem step_wide (h : Wide s) (hb : 0x80 ≤ b.toNat) (hc : c ∈ (step s b).1) : 0x80 ≤ c.toNat := by
  unfold step at hc
  split at hc
  · exact start_wide hb hc
  · split at hc
    · exact (h _ rfl).take_wide ‹_› hc
    · rcases List.mem_cons.1 hc with rfl | hc
      · exact replacement_wide
      · exact start_wide hb hc

theorem finish_wide (hc : c ∈ finish s) : 0x80 ≤ c.toNat := by
  cases s with
  | none => cases hc
  | some p =>
    cases List.mem_singleton.1 hc
    exact replacement_wide

/-- A character below 0x80 comes of its own byte only. -/
theorem mem_emitted (h : Wide s) (bs : Bytes) (hc : c ∈ emitted s bs) (ha : c.toNat < 0x80) :
    ∃ b ∈ bs, b.toNat = c.toNat := by
  induction bs generalizing s with
  | nil => cases hc
  | cons b bs ih =>
    rcases List.mem_append.1 hc with hc | hc
    · refine ⟨b, List.mem_cons_self .., ?_⟩
      rcases Nat.lt_or_ge b.toNat 0x80 with hb | hb
      · rw [step_ascii h hb] at hc
        rcases List.mem_append.1 hc with hc | hc
        · exact absurd (finish_wide hc) (Nat.not_le.2 ha)
        · cases List.mem_singleton.1 hc
          exact (toNat_ofNat_ascii hb).symm
      · exact absurd (step_wide h hb hc) (Nat.not_le.2 ha)
    · obtain ⟨b', hb', he⟩ := ih (wide_step h b) hc
      exact ⟨b', List.mem_cons_of_mem _ hb', he⟩

theorem mem_decode {bs : Bytes} (hc : c ∈ decode bs) (ha : c.toNat < 0x80) :
    ∃ b ∈ bs, b.toNat = c.toNat := by
  rw [decode, decodeFrom_eq] at hc
  rcases List.mem_append.1 hc with hc | hc
  · exact mem_emitted wide_none bs hc ha
  · exact absurd (finish_wide hc) (Nat.not_le.2 ha)

/-- What stands before a byte below 0x80 is decoded by itself, and so is what stands behind it. -/
theorem decode_append_ascii (as : Bytes) (hb : b.toNat < 0x80) (bs : Bytes) :
    decode (as ++ b :: bs) = decode as ++ Char.ofNat b.toNat :: decode bs := by
  have hstep := step_ascii (wide_after wide_none as) hb
  rw [decode, decodeFrom_append, decodeFrom, hstep, decode, decodeFrom_eq none as, decode]
  simp only [List.append_assoc, List.singleton_append]

/-- Every byte shows: in a character, or in the sequence that it leaves open. -/
theorem step_shows (s : State) (b : UInt8) : (step s b).1 ++ finish (step s b).2 ≠ [] := by
  have hstart : (start b).1 ++ finish (start b).2 ≠ [] := by
    unfold start
    split <;> exact List.cons_ne_nil _ _
  unfold step
  split
  · exact hstart
  · split
    · unfold Partial.take
      dsimp only
      split <;> exact List.cons_ne_nil _ _
    · exact List.cons_ne_nil _ _

theorem decode_concat (as : Bytes) (a : UInt8) :
    decode (as ++ [a]) =
      emitted none as ++ ((step (after none as) a).1 ++ finish (step (after none as) a).2) := by
  rw [decode, decodeFrom_append]
  rfl

theorem decode_ne_nil {bs : Bytes} (h : bs ≠ []) : decode bs ≠ [] := by
  rcases List.eq_nil_or_concat bs with rfl | ⟨as, a, rfl⟩
  · exact absurd rfl h
  · rw [List.concat_eq_append, decode_concat]
    exact List.append_ne_nil_of_right_ne_nil _ (step_shows _ a)

/-- A character below 0x80 at the end comes of its own byte at the end. -/
theorem getLast?_decode (bs : Bytes) (hb : b.toNat < 0x80) :
    (decode bs).getLast? = some (Char.ofNat b.toNat) ↔ bs.getLast? = some b := by
  rcases List.eq_nil_or_concat bs with rfl | ⟨as, a, rfl⟩
  · simp [decode, decodeFrom, finish]
  · have hwide : Wide (after none as) := wide_after wide_none as
    have hsome := List.getLast?_isSome.2 (step_shows (after none as) a)
    rw [List.concat_eq_append, decode_concat, List.getLast?_append, Option.or_of_isSome hsome,
      List.getLast?_concat]
    rcases Nat.lt_or_ge a.toNat 0x80 with ha | ha
    · rw [step_ascii hwide ha, finish, List.append_nil, List.getLast?_concat]
      refine ⟨fun h => ?_, fun h => by rw [Option.some.inj h]⟩
      have hnum := congrArg Char.toNat (Option.some.inj h)
      rw [toNat_ofNat_ascii ha, toNat_ofNat_ascii hb] at hnum
      exact congrArg some (UInt8.toNat_inj.1 hnum)
    · refine ⟨fun h => ?_, fun h => ?_⟩
      · have hlow : ¬ 0x80 ≤ (Char.ofNat b.toNat).toNat := by
          rw [toNat_ofNat_ascii hb]
          exact Nat.not_le.2 hb
        rcases List.mem_append.1 (List.mem_of_getLast? h) with hc | hc
        · exact absurd (step_wide hwide ha hc) hlow
        · exact absurd (finish_wide hc) hlow
      · exact absurd (Option.some.inj h ▸ ha) (Nat.not_le.2 hb)

end CommandShell.Utf8
