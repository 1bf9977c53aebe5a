import CommandShell.Proofs.Text.RoundTrip
/-! A text is written in one way only: bytes that decode are the bytes that the text is written
with. -/
namespace CommandShell.Utf8

variable {p : Partial} {s : State} {b : UInt8} {v : Nat} {before bs : Bytes}

/-- A first byte opens all numbers that its sequence can become. -/
theorem Heads.opens {n : Nat} (h : Heads n p) (hfirst : p.first ≤ v) (hbound : v < p.bound) :
    Opens v n p.missing := by
  cases h with
  | two hlow hhigh =>
    simp [Partial.first, Partial.bound, span] at hfirst hbound
    obtain rfl : n = v / 64 + 0xC0 := by omega
    exact .two (by omega) (by omega)
  | firstThree h | gapThree h | three _ _ h =>
    simp [Partial.first, Partial.bound, span] at hfirst hbound
    obtain rfl : n = v / 4096 + 0xE0 := by omega
    exact .three (by omega) (by omega)
  | firstFour h | lastFour h | four =>
    simp [Partial.first, Partial.bound, span] at hfirst hbound
    obtain rfl : n = v / 262144 + 0xF0 := by omega
    exact .four (by omega)

/-- The bytes so far begin all characters that the sequence can become. -/
structure Partial.Begins (p : Partial) (before : Bytes) : Prop extends p.Wide where
  high : p.high.toNat ≤ 0xBF
  unfinished : 0 < p.missing
  written : ∀ v, p.first ≤ v → v < p.bound →
    String.utf8EncodeChar (Char.ofNat v) = before ++ tail v p.missing

theorem begins_of_lead (h : lead b = .sequence p) : p.Begins [b] := by
  have hheads : Heads b.toNat p := heads_of_lead h
  refine ⟨hheads.wide, hheads.range.2.1, hheads.range.2.2, fun v hfirst hbound => ?_⟩
  rw [(hheads.opens hfirst hbound).encoded (hheads.wide.scalar v hfirst hbound).1,
    UInt8.ofNat_toNat]
  rfl

/-- A byte that is accepted is the next one of all numbers that are left after it. -/
theorem Partial.Begins.tailByte (h : p.Begins before) (ha : p.accepts b = true) :
    Utf8.tailByte (p.value * 64 + (b.toNat - 0x80)) = b := by
  simp only [accepts, Bool.and_eq_true, decide_eq_true_eq, UInt8.le_iff_toNat_le] at ha
  have hlow := h.low
  have hhigh := h.high
  rw [← UInt8.toNat_inj, toNat_tailByte]
  omega

/-- The last byte ends the one character that is left. -/
theorem Partial.Begins.last (h : p.Begins before) (ha : p.accepts b = true)
    (hmissing : p.missing ≤ 1) :
    String.utf8EncodeChar (Char.ofNat (p.value * 64 + (b.toNat - 0x80))) = before ++ [b] := by
  have hone : p.missing = 0 + 1 := Nat.le_antisymm hmissing h.unfinished
  obtain ⟨hfirst, hbound⟩ := h.value_bounds ha
  rw [hone, Nat.add_sub_cancel, span, Nat.mul_one] at hfirst
  rw [hone, Nat.add_sub_cancel, span, Nat.mul_one] at hbound
  rw [h.written _ hfirst hbound, hone, tail, tail, span, Nat.div_one, h.tailByte ha]

/-- The sequence with more bits and one byte less to come. -/
def Partial.shift (p : Partial) (value : Nat) : Partial where
  value := value
  missing := p.missing - 1

theorem Partial.take_shift (b : UInt8) (hmissing : ¬ p.missing ≤ 1) :
    p.take b = ([], some (p.shift (p.value * 64 + (b.toNat - 0x80)))) := by
  rw [take, if_neg hmissing, Partial.shift]

/-- Any other byte leaves a sequence for fewer characters. -/
theorem Partial.Begins.shift (h : p.Begins before) (ha : p.accepts b = true)
    (hmissing : ¬ p.missing ≤ 1) :
    (p.shift (p.value * 64 + (b.toNat - 0x80))).Begins (before ++ [b]) := by
  have hwide := h.take ha
  rw [Partial.take_shift b hmissing] at hwide
  refine ⟨hwide _ rfl, by simp [Partial.shift], Nat.sub_pos_of_lt (Nat.lt_of_not_le hmissing),
    fun v hv hv' => ?_⟩
  obtain ⟨k, hk⟩ : ∃ k, p.missing = k + 1 + 1 := ⟨p.missing - 2, by omega⟩
  obtain ⟨hfirst, hbound⟩ := h.value_bounds ha
  have hbyte := h.tailByte ha
  rw [hk, Nat.add_sub_cancel] at hfirst hbound
  simp only [first, bound, Partial.shift, hk, Nat.add_sub_cancel] at hv hv' ⊢
  generalize p.value * 64 + (b.toNat - 0x80) = value at *
  have hlow : value * span (k + 1) ≤ v := by
    simpa [span, Nat.mul_assoc] using hv
  have hhigh : v < (value + 1) * span (k + 1) := by
    simpa [span, Nat.add_mul, Nat.add_assoc, Nat.mul_assoc] using hv'
  have hdiv : v / span (k + 1) = value := Nat.div_eq_of_lt_le hlow hhigh
  rw [h.written v (Nat.le_trans hfirst hlow) (Nat.lt_of_lt_of_le hhigh hbound), hk, tail, hdiv,
    hbyte, List.append_assoc]
  rfl

/-- What the bytes of a sequence under way begin; between two sequences there are none. -/
inductive Pending : State → Bytes → Prop
  | between : Pending none []
  | within {q : Partial} {bs : Bytes} (h : q.Begins bs) : Pending (some q) bs

theorem encode_cons (c : Char) (t : Text) : encode (c :: t) = String.utf8EncodeChar c ++ encode t :=
  List.flatMap_cons

theorem encodeChar_of_lead {c : Char} (h : lead b = .char c) : String.utf8EncodeChar c = [b] := by
  obtain ⟨hb, rfl⟩ := lead_char_iff.1 h
  rw [encodeChar_ascii (Nat.le_of_lt_succ hb), UInt8.ofNat_toNat]

/-- Bytes without an error are those of their text. -/
theorem encode_decodeFrom {index seen : Nat} (h : Pending s before)
    (hc : checkFrom s index seen bs = none) : encode (decodeFrom s bs) = before ++ bs := by
  induction bs generalizing s before index seen with
  | nil =>
    cases h with
    | between => rfl
    | within h => cases hc
  | cons b bs ih =>
    cases h with
    | between =>
      cases hlead : lead b with
      | char c =>
        have hrest : checkFrom none (index + 1) 0 bs = none := by simpa [checkFrom, hlead] using hc
        have hstep : decodeFrom none (b :: bs) = c :: decodeFrom none bs := by
          simp [decodeFrom, step, start, hlead]
        rw [hstep, encode_cons, encodeChar_of_lead hlead, ih .between hrest]
        rfl
      | sequence p =>
        have hrest : checkFrom (some p) index 1 bs = none := by simpa [checkFrom, hlead] using hc
        have hstep : decodeFrom none (b :: bs) = decodeFrom (some p) bs := by
          simp [decodeFrom, step, start, hlead]
        rw [hstep, ih (.within (begins_of_lead hlead)) hrest]
        rfl
      | malformed => simp [checkFrom, hlead] at hc
    | within h =>
      rename_i p
      by_cases ha : p.accepts b = true
      · by_cases hmissing : p.missing ≤ 1
        · have hrest : checkFrom none (index + seen + 1) 0 bs = none := by
            simpa [checkFrom, ha, Partial.take, hmissing] using hc
          have hstep : decodeFrom (some p) (b :: bs) =
              Char.ofNat (p.value * 64 + (b.toNat - 0x80)) :: decodeFrom none bs := by
            simp [decodeFrom, step, ha, Partial.take, hmissing]
          rw [hstep, encode_cons, h.last ha hmissing, ih .between hrest, List.append_assoc]
          rfl
        · have hnext := h.shift ha hmissing
          have htake := Partial.take_shift b hmissing
          generalize p.shift (p.value * 64 + (b.toNat - 0x80)) = q at hnext htake
          have hrest : checkFrom (some q) index (seen + 1) bs = none := by
            simpa [checkFrom, ha, htake] using hc
          have hstep : decodeFrom (some p) (b :: bs) = decodeFrom (some q) bs := by
            simp [decodeFrom, step, ha, htake]
          rw [hstep, ih (.within hnext) hrest, List.append_assoc]
          rfl
      · rw [checkFrom, if_neg ha] at hc
        cases hc

/-- Bytes are well-formed when they are those of some text, and then they give it back. -/
theorem decode?_eq_some_iff {t : Text} : decode? bs = some t ↔ bs = encode t := by
  constructor
  · intro h
    unfold decode? at h
    split at h
    · rename_i hcheck
      obtain rfl := Option.some.inj h
      exact (encode_decodeFrom .between (Option.isNone_iff_eq_none.1 hcheck)).symm
    · cases h
  · rintro rfl
    exact decode?_encode t

theorem encode_inj {t u : Text} : encode t = encode u ↔ t = u := by
  constructor
  · intro h
    have hread := decode?_encode t
    rw [h, decode?_encode] at hread
    exact (Option.some.inj hread).symm
  · exact congrArg encode

end CommandShell.Utf8
