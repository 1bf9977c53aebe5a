import CommandShell.Proofs.Text.Utf8
/-! Text written as UTF-8 is read back. -/
namespace CommandShell.Utf8

variable {p : Partial} {s : State} {b : UInt8} {c : Char} {bs : Bytes}

/-- The bytes take what is under way to the end of a character, and are no error. -/
structure Completes (s : State) (bs : Bytes) (c : Char) : Prop where
  decoded : ∀ rest, decodeFrom s (bs ++ rest) = c :: decodeFrom none rest
  passed : ∀ index seen rest, ∃ index', checkFrom s index seen (bs ++ rest) =
    checkFrom none index' 0 rest

theorem completes_char (h : lead b = .char c) : Completes none [b] c := by
  refine ⟨fun rest => ?_, fun index seen rest => ⟨index + 1, ?_⟩⟩
  · simp [decodeFrom, step, start, h]
  · simp [checkFrom, h]

theorem completes_sequence (h : lead b = .sequence p) (hbs : Completes (some p) bs c) :
    Completes none (b :: bs) c := by
  refine ⟨fun rest => ?_, fun index seen rest => ?_⟩
  · simp [decodeFrom, step, start, h, hbs.decoded]
  · obtain ⟨index', hindex⟩ := hbs.passed index 1 rest
    exact ⟨index', by simp [checkFrom, h, hindex]⟩

theorem completes_last (ha : p.accepts b = true) (ht : p.take b = ([c], none)) :
    Completes (some p) [b] c := by
  refine ⟨fun rest => ?_, fun index seen rest => ⟨index + seen + 1, ?_⟩⟩
  · simp [decodeFrom, step, ha, ht]
  · simp [checkFrom, ha, ht]

theorem completes_next {q : Partial} (ha : p.accepts b = true) (ht : p.take b = ([], some q))
    (hbs : Completes (some q) bs c) : Completes (some p) (b :: bs) c := by
  refine ⟨fun rest => ?_, fun index seen rest => ?_⟩
  · simp [decodeFrom, step, ha, ht, hbs.decoded]
  · obtain ⟨index', hindex⟩ := hbs.passed index (seen + 1) rest
    exact ⟨index', by simp [checkFrom, ha, ht, hindex]⟩

/-- The byte for six bits of a number behind the first byte. -/
def tailByte (n : Nat) : UInt8 := UInt8.ofNat (n % 64 + 128)

/-- The last bytes of a number, so many of them. -/
def tail (v : Nat) : Nat → Bytes
  | 0 => []
  | k + 1 => tailByte (v / span k) :: tail v k

theorem toNat_tailByte (n : Nat) : (tailByte n).toNat = n % 64 + 128 := by
  have hlt : n % 64 < 64 := Nat.mod_lt n (by decide)
  exact UInt8.toNat_ofNat_of_lt' (show n % 64 + 128 < 256 by omega)

theorem span_pos (k : Nat) : 0 < span k := by
  induction k with
  | zero => decide
  | succ k ih => exact Nat.mul_pos (by decide) ih

/-- A sequence can become the character of this number, and the next byte may be any between two
of the bytes that go on with a sequence. -/
structure Partial.Awaits (p : Partial) (v : Nat) : Prop where
  low : 0x80 ≤ p.low.toNat
  ordered : p.low ≤ p.high
  high : p.high.toNat ≤ 0xBF
  first_le : p.first ≤ v
  lt_bound : v < p.bound

/-- The next six bits of the number are among those that the sequence goes on with. -/
theorem Partial.Awaits.tailByte {k v : Nat} (h : p.Awaits v) (hmissing : p.missing = k + 1) :
    p.accepts (tailByte (v / span k)) = true ∧
      p.value * 64 + ((Utf8.tailByte (v / span k)).toNat - 0x80) = v / span k := by
  have hpos : 0 < span k := span_pos k
  have hlow := h.low
  have hhigh := h.high
  have hordered := UInt8.le_iff_toNat_le.1 h.ordered
  have hfirst := h.first_le
  have hbound := h.lt_bound
  rw [first, hmissing, Nat.add_sub_cancel, ← Nat.le_div_iff_mul_le hpos] at hfirst
  rw [bound, hmissing, Nat.add_sub_cancel, ← Nat.div_lt_iff_lt_mul hpos] at hbound
  constructor
  · simp only [accepts, Bool.and_eq_true, decide_eq_true_eq, UInt8.le_iff_toNat_le,
      toNat_tailByte]
    omega
  · rw [toNat_tailByte]
    omega

theorem awaits_next (v k : Nat) :
    Partial.Awaits { value := v / span (k + 1), missing := k + 1 } v := by
  have hpos : 0 < span k := span_pos k
  have hdiv : v / span (k + 1) = v / span k / 64 := by
    rw [span, Nat.mul_comm, Nat.div_div_eq_div_mul]
  refine ⟨by simp, by simp, by simp, ?_, ?_⟩
  · rw [Partial.first, Nat.add_sub_cancel, ← Nat.le_div_iff_mul_le hpos, hdiv]
    simp only [UInt8.toNat_ofNat]
    omega
  · rw [Partial.bound, Nat.add_sub_cancel, ← Nat.div_lt_iff_lt_mul hpos, hdiv]
    simp only [UInt8.toNat_ofNat]
    omega

theorem Partial.Awaits.completes {k v : Nat} (h : p.Awaits v) (hmissing : p.missing = k + 1) :
    Completes (some p) (tail v (k + 1)) (Char.ofNat v) := by
  induction k generalizing p with
  | zero =>
    obtain ⟨haccepts, hvalue⟩ := h.tailByte hmissing
    refine completes_last haccepts ?_
    rw [take, hvalue, span, Nat.div_one, if_pos (Nat.le_of_eq hmissing)]
  | succ k ih =>
    obtain ⟨haccepts, hvalue⟩ := h.tailByte hmissing
    refine completes_next haccepts ?_ (ih (awaits_next v k) rfl)
    have hmore : ¬ p.missing ≤ 1 := by omega
    rw [take, hvalue, if_neg hmore, hmissing, Nat.add_sub_cancel]

/-- How a number of more than seven bits is written: its first byte, and how many follow. -/
inductive Opens (v : Nat) : (first more : Nat) → Prop where
  | two : 0x80 ≤ v → v ≤ 0x7FF → Opens v (v / 64 + 0xC0) 1
  | three : 0x800 ≤ v → v ≤ 0xFFFF → Opens v (v / 4096 + 0xE0) 2
  | four : 0x10000 ≤ v → Opens v (v / 262144 + 0xF0) 3

/-- The first byte begins a sequence that can become the number. -/
theorem Opens.heads {v n k : Nat} (h : Opens v n k) (hv : v.isValidChar) :
    ∃ p, Heads n p ∧ p.missing = k ∧ p.first ≤ v ∧ v < p.bound := by
  unfold Nat.isValidChar at hv
  cases h with
  | two =>
    exact ⟨_, .two (by omega) (by omega), rfl, by simp [Partial.first, Partial.bound, span]; omega⟩
  | three =>
    by_cases hfirst : v < 0x1000
    · exact ⟨_, .firstThree (by omega), rfl, by simp [Partial.first, Partial.bound, span]; omega⟩
    by_cases hgap : v / 4096 = 0xD
    · exact ⟨_, .gapThree (by omega), rfl, by simp [Partial.first, Partial.bound, span]; omega⟩
    · exact ⟨_, .three (by omega) (by omega) (by omega), rfl,
        by simp [Partial.first, Partial.bound, span]; omega⟩
  | four =>
    by_cases hfirst : v < 0x40000
    · exact ⟨_, .firstFour (by omega), rfl, by simp [Partial.first, Partial.bound, span]; omega⟩
    by_cases hlast : 0x100000 ≤ v
    · exact ⟨_, .lastFour (by omega), rfl, by simp [Partial.first, Partial.bound, span]; omega⟩
    · exact ⟨_, .four (by omega) (by omega), rfl,
        by simp [Partial.first, Partial.bound, span]; omega⟩

theorem Opens.first_lt {v n k : Nat} (h : Opens v n k) (hv : v.isValidChar) : n < 256 := by
  unfold Nat.isValidChar at hv
  cases h <;> omega

theorem Opens.completes {v n k : Nat} (h : Opens v n k) (hv : v.isValidChar) :
    Completes none (UInt8.ofNat n :: tail v k) (Char.ofNat v) := by
  obtain ⟨p, hheads, hmissing, hfirst, hbound⟩ := h.heads hv
  have hawaits : p.Awaits v :=
    ⟨hheads.wide.low, hheads.range.1, hheads.range.2.1, hfirst, hbound⟩
  rw [← UInt8.toNat_ofNat_of_lt' (h.first_lt hv)] at hheads
  refine completes_sequence hheads.lead ?_
  cases h with
  | two => exact hawaits.completes hmissing
  | three => exact hawaits.completes hmissing
  | four => exact hawaits.completes hmissing

theorem completes_ascii {v : Nat} (h : v ≤ 127) :
    Completes none [UInt8.ofNat v] (Char.ofNat v) := by
  have hb : (UInt8.ofNat v).toNat = v := UInt8.toNat_ofNat_of_lt' (show v < 256 by omega)
  refine completes_char (lead_char_iff.2 ?_)
  rw [hb]
  exact ⟨Nat.lt_succ_of_le h, rfl⟩

theorem encodeChar_ascii {v : Nat} (h : v ≤ 127) :
    String.utf8EncodeChar (Char.ofNat v) = [UInt8.ofNat v] := by
  have hnum : (Char.ofNat v).val.toNat = v := toNat_ofNat (Or.inl (by omega))
  simp only [String.utf8EncodeChar, hnum]
  rw [if_pos h]

/-- So a number of more than seven bits is written. -/
theorem Opens.encoded {v n k : Nat} (h : Opens v n k) (hv : v.isValidChar) :
    String.utf8EncodeChar (Char.ofNat v) = UInt8.ofNat n :: tail v k := by
  have hnum : (Char.ofNat v).val.toNat = v := toNat_ofNat hv
  have hsize : v < 0x110000 := by
    unfold Nat.isValidChar at hv
    omega
  simp only [String.utf8EncodeChar, hnum]
  cases h with
  | two hlow hhigh =>
    have hmod : v / 64 % 32 = v / 64 := by omega
    rw [if_neg (by omega), if_pos hhigh, hmod]
    simp [tail, tailByte, span]
  | three hlow hhigh =>
    have hmod : v / 4096 % 16 = v / 4096 := by omega
    rw [if_neg (by omega), if_neg (by omega), if_pos hhigh, hmod]
    simp [tail, tailByte, span]
  | four hlow =>
    have hmod : v / 262144 % 8 = v / 262144 := by omega
    rw [if_neg (by omega), if_neg (by omega), if_neg (by omega), hmod]
    simp [tail, tailByte, span]

theorem exists_opens {v : Nat} (h : 127 < v) : ∃ n k, Opens v n k := by
  by_cases htwo : v ≤ 0x7FF
  · exact ⟨_, _, .two h htwo⟩
  · by_cases hthree : v ≤ 0xFFFF
    · exact ⟨_, _, .three (Nat.lt_of_not_le htwo) hthree⟩
    · exact ⟨_, _, .four (Nat.lt_of_not_le hthree)⟩

theorem completes_encodeChar (c : Char) : Completes none (String.utf8EncodeChar c) c := by
  obtain ⟨v, hv, rfl⟩ : ∃ v, v.isValidChar ∧ Char.ofNat v = c :=
    ⟨c.toNat, c.valid, Char.ofNat_toNat c⟩
  rcases Nat.lt_or_ge 127 v with hwide | hascii
  · obtain ⟨n, k, hopens⟩ := exists_opens hwide
    rw [hopens.encoded hv]
    exact hopens.completes hv
  · rw [encodeChar_ascii hascii]
    exact completes_ascii hascii

theorem decodeFrom_encode (t : Text) (rest : Bytes) :
    decodeFrom none (encode t ++ rest) = t ++ decodeFrom none rest := by
  induction t with
  | nil => rfl
  | cons c t ih =>
    rw [encode, List.flatMap_cons, List.append_assoc, (completes_encodeChar c).decoded]
    exact congrArg (c :: ·) ih

theorem checkFrom_encode (t : Text) (index : Nat) : checkFrom none index 0 (encode t) = none := by
  induction t generalizing index with
  | nil => rfl
  | cons c t ih =>
    obtain ⟨index', hindex⟩ := (completes_encodeChar c).passed index 0 (encode t)
    rw [encode, List.flatMap_cons]
    exact hindex.trans (ih index')

theorem decode_encode (t : Text) : decode (encode t) = t := by
  have h := decodeFrom_encode t []
  rwa [List.append_nil, decodeFrom, finish, List.append_nil] at h

/-- All text can be written, and reads as before. -/
theorem decode?_encode (t : Text) : decode? (encode t) = some t := by
  rw [decode?, check, checkFrom_encode, decode_encode]
  rfl

theorem encode_append (t u : Text) : encode (t ++ u) = encode t ++ encode u := by
  rw [encode, List.flatMap_append, encode, encode]

theorem encode_join (gap : Text) (items : List Text) :
    encode (Text.join gap items) = (encode gap).intercalate (items.map encode) := by
  rw [Text.join]
  induction items with
  | nil => rfl
  | cons t items ih =>
    cases items with
    | nil => rw [List.intercalate_singleton, List.map_singleton, List.intercalate_singleton]
    | cons u items =>
      rw [List.map_cons] at ih
      rw [List.intercalate_cons_cons, encode_append, encode_append, ih, List.map_cons,
        List.map_cons, List.intercalate_cons_cons]

theorem encode_ascii (hb : b.toNat < 0x80) : encode [Char.ofNat b.toNat] = [b] := by
  rw [encode, List.flatMap_singleton, encodeChar_ascii (Nat.le_of_lt_succ hb), UInt8.ofNat_toNat]

/-- A byte below 0x80 comes of its own character only. -/
theorem mem_of_mem_encode {t : Text} (h : b ∈ encode t) (hb : b.toNat < 0x80) :
    Char.ofNat b.toNat ∈ t := by
  obtain ⟨as, bs, ht⟩ := List.append_of_mem h
  rw [← decode_encode t, ht, decode_append_ascii as hb]
  exact List.mem_append_right _ (List.mem_cons_self ..)

/-- Between the bytes of a character below 0x80 stands what stands between the characters. -/
theorem splitOn_encode (t : Text) (hb : b.toNat < 0x80) :
    (encode t).splitOn b = (t.splitOn (Char.ofNat b.toNat)).map encode := by
  have hbyte : encode [Char.ofNat b.toNat] = [b] := encode_ascii hb
  have hjoin : [b].intercalate ((t.splitOn (Char.ofNat b.toNat)).map encode) = encode t := by
    rw [← hbyte, ← encode_join, Text.join, List.intercalate_splitOn]
  rw [← hjoin]
  refine List.splitOn_intercalate b (fun bs hbs hmem => ?_) (by simp)
  obtain ⟨s, hs, rfl⟩ := List.mem_map.1 hbs
  exact Text.notMem_of_mem_splitOn hs (mem_of_mem_encode hmem hb)

end CommandShell.Utf8
