import CommandShell.Input.Request
import CommandShell.Proofs.Text.Utf8
/-! Lines asked for one after another are the lines of the whole input's text: decoding line by line
loses nothing, splits nothing and merges nothing, whatever the bytes are. -/
namespace CommandShell

variable {bs : Bytes} {t : Text}

namespace Text

/-- The text without a carriage return at its end. -/
def withoutReturn (t : Text) : Text := if t.getLast? = some '\r' then t.dropLast else t

/-- The lines of a text: what stands before each newline, without a carriage return, and then
whatever stands behind the last newline. -/
def lines (t : Text) : List Text :=
  (t.splitOn '\n').dropLast.map withoutReturn ++ [(t.splitOn '\n').getLastD []].filter (· ≠ [])

theorem lines_unended (h : '\n' ∉ t) (ht : t ≠ []) : t.lines = [t] := by
  rw [lines, List.splitOn_eq_singleton h]
  simp [ht]

theorem lines_newline (h : '\n' ∉ t) (rest : Text) :
    (t ++ '\n' :: rest).lines = t.withoutReturn :: rest.lines := by
  obtain ⟨piece, pieces, hrest⟩ := List.exists_cons_of_ne_nil (List.splitOn_ne_nil '\n' rest)
  rw [lines, lines, List.splitOn_append_cons_self, List.splitOn_eq_singleton h, hrest,
    List.singleton_append, List.dropLast_cons_of_ne_nil (List.cons_ne_nil _ _), List.map_cons,
    List.getLastD_cons, List.getLastD_cons, List.getLastD_cons, List.cons_append]

end Text

/-- Whether the input has a newline decides what its first line is. -/
theorem firstLine_cases (bs : Bytes) :
    (∃ content rest, newline ∉ content ∧ bs = content ++ newline :: rest ∧
        firstLine bs = ⟨content, true, rest⟩) ∨
      (newline ∉ bs ∧ firstLine bs = ⟨bs, false, []⟩) := by
  induction bs with
  | nil => exact Or.inr ⟨List.not_mem_nil, rfl⟩
  | cons b bs ih =>
    rw [firstLine]
    by_cases hb : b = newline
    · rw [if_pos hb]
      exact Or.inl ⟨[], bs, List.not_mem_nil, by rw [hb]; rfl, rfl⟩
    · rw [if_neg hb]
      rcases ih with ⟨content, rest, hc, rfl, he⟩ | ⟨hn, he⟩
      · refine Or.inl ⟨b :: content, rest, ?_, rfl, by rw [he]⟩
        exact List.not_mem_cons_of_ne_of_not_mem (Ne.symm hb) hc
      · exact Or.inr ⟨List.not_mem_cons_of_ne_of_not_mem (Ne.symm hb) hn, by rw [he]⟩

namespace Utf8

theorem newline_not_mem_decode (h : newline ∉ bs) : '\n' ∉ decode bs := by
  intro hc
  obtain ⟨b, hb, he⟩ := mem_decode hc (by decide)
  obtain rfl : b = newline := UInt8.toNat_inj.1 he
  exact h hb

/-- Nothing before a newline, however broken, has an effect on it or on what is behind it. -/
theorem decode_append_newline (as bs : Bytes) :
    decode (as ++ newline :: bs) = decode as ++ '\n' :: decode bs :=
  decode_append_ascii as (by decide) bs

theorem decode_withoutReturn (bs : Bytes) :
    decode (CommandShell.withoutReturn bs) = (decode bs).withoutReturn := by
  have hlast : (decode bs).getLast? = some '\r' ↔ bs.getLast? = some carriageReturn :=
    getLast?_decode bs (b := carriageReturn) (by decide)
  unfold CommandShell.withoutReturn Text.withoutReturn
  by_cases h : bs.getLast? = some carriageReturn
  · obtain ⟨as, rfl⟩ := List.getLast?_eq_some_iff.1 h
    have hdecode : decode (as ++ [carriageReturn]) = decode as ++ ['\r'] :=
      decode_append_ascii as (by decide) []
    rw [if_pos h, if_pos (hlast.2 h), List.dropLast_concat, hdecode, List.dropLast_concat]
  · rw [if_neg h, if_neg (mt hlast.1 h)]

end Utf8

/-- The next line is the first one of the text of the input, and the rest has the others. -/
theorem lines_decode (bs : Bytes) :
    (Utf8.decode bs).lines =
      match nextLine? bs with
      | none => []
      | some (text, rest) => text :: (Utf8.decode rest).lines := by
  cases hbs : bs with
  | nil => rfl
  | cons b tail =>
    rw [← hbs, nextLine?, if_neg (by simp [hbs])]
    rcases firstLine_cases bs with ⟨content, rest, hc, he, hl⟩ | ⟨hn, hl⟩
    · have hraw : (firstLine bs).raw = withoutReturn content := by rw [hl]; rfl
      dsimp only
      rw [FirstLine.text, hraw, hl, he, Utf8.decode_append_newline,
        Text.lines_newline (Utf8.newline_not_mem_decode hc), Utf8.decode_withoutReturn]
    · have hne : Utf8.decode bs ≠ [] := Utf8.decode_ne_nil (by simp [hbs])
      rw [hl]
      exact Text.lines_unended (Utf8.newline_not_mem_decode hn) hne

/-- A line is read alike whatever is behind it, and what is behind it whatever the line is. -/
theorem lines_decode_append (as bs : Bytes) (h : newline ∉ as) :
    (Utf8.decode (as ++ newline :: bs)).lines =
      Utf8.decode (withoutReturn as) :: (Utf8.decode bs).lines := by
  rw [Utf8.decode_append_newline, Text.lines_newline (Utf8.newline_not_mem_decode h),
    Utf8.decode_withoutReturn]

namespace Stream

/-- Texts displayed one after another, up to the first that cannot be. -/
def displayAll : List Text → Stream → Stream × Option Fault
  | [], s => (s, none)
  | t :: ts, s =>
    match s.display t with
    | (s, some cause) => (s, some cause)
    | (s, none) => displayAll ts s

variable {s : Stream}

theorem received_fit (h : (s.fit bs).2 = none) : (s.fit bs).1.received = s.received ++ bs := by
  unfold fit at h ⊢
  dsimp only at h ⊢
  split at h
  · cases h
  · rename_i hn
    rw [keep, List.take_of_length_le (Nat.not_lt.1 hn)]

theorem received_write (h : (s.write bs).2 = none) :
    (s.write bs).1.received = s.received ++ bs := by
  unfold write at h ⊢
  split at h
  · rename_i he
    rw [if_pos he, List.isEmpty_iff.1 he, List.append_nil]
  · rename_i hb
    rw [if_neg hb]
    split at h
    · exact received_fit h
    · exact received_fit h
    · cases h

theorem received_flush (s : Stream) : s.flush.1.received = s.received := by
  unfold flush
  split <;> rfl

theorem received_display (h : (s.display t).2 = none) :
    (s.display t).1.received = s.received ++ Utf8.encode t := by
  unfold display at h ⊢
  split at h
  · cases h
  · rename_i s' he
    have hw : (s.write (Utf8.encode t)).2 = none := by rw [he]
    rw [received_flush, ← received_write hw, he]

theorem received_displayAll {ts : List Text} (h : (displayAll ts s).2 = none) :
    (displayAll ts s).1.received = s.received ++ ts.flatMap Utf8.encode := by
  induction ts generalizing s with
  | nil => simp [displayAll]
  | cons t ts ih =>
    rw [displayAll] at h ⊢
    cases he : s.display t with
    | mk s' fault =>
      rw [he] at h
      cases fault with
      | some cause => cases h
      | none =>
        have hd : (s.display t).2 = none := by rw [he]
        have hreceived := received_display hd
        rw [he] at hreceived
        dsimp only at h hreceived ⊢
        rw [ih h, hreceived, List.flatMap_cons, List.append_assoc]

end Stream

/-- What lines have to say to request number `i`, counted from 0. -/
def Reply.ofLines (ls : List Text) (i : Nat) : Reply :=
  match ls[i]? with
  | some text => .line text
  | none => .endOfInput

theorem Reply.ofLines_tail (ls : List Text) (i : Nat) : ofLines ls.tail i = ofLines ls (i + 1) := by
  rw [ofLines, List.getElem?_tail, ofLines]

namespace Dialogue

variable {d : Dialogue}

/-- The lines that are still to come. -/
def ahead (d : Dialogue) : List Text := (Utf8.decode d.input).lines

theorem take_spec (d : Dialogue) :
    d.take.1.prompts = d.prompts ∧ d.take.2 = Reply.ofLines d.ahead 0 ∧
      d.take.1.ahead = d.ahead.tail := by
  have hlines := lines_decode d.input
  unfold take ahead
  rw [hlines]
  cases hn : nextLine? d.input with
  | none =>
    rw [hn] at hlines
    exact ⟨rfl, rfl, hlines⟩
  | some r => exact ⟨rfl, rfl, rfl⟩

/-- A request shows its prompt once and takes one line away. -/
theorem ask_spec {text : Text} (h : (d.prompts.display text).2 = none) :
    (d.ask text).1.prompts = (d.prompts.display text).1 ∧
      (d.ask text).2 = Reply.ofLines d.ahead 0 ∧ (d.ask text).1.ahead = d.ahead.tail := by
  have hask : d.ask text = ({ d with prompts := (d.prompts.display text).1 } : Dialogue).take := by
    rw [ask, request, prompt, h]
  rw [hask]
  exact take_spec _

theorem askAll_spec {texts : List Text} (h : (d.prompts.displayAll texts).2 = none) :
    (d.askAll texts).2 = (List.range texts.length).map (Reply.ofLines d.ahead) ∧
      (d.askAll texts).1.prompts = (d.prompts.displayAll texts).1 := by
  induction texts generalizing d with
  | nil => exact ⟨rfl, rfl⟩
  | cons text texts ih =>
    rw [Stream.displayAll] at h ⊢
    cases he : d.prompts.display text with
    | mk s fault =>
      rw [he] at h
      cases fault with
      | some cause => cases h
      | none =>
        have hok : (d.prompts.display text).2 = none := by rw [he]
        obtain ⟨hprompts, hreply, hahead⟩ := ask_spec hok
        rw [he] at hprompts
        dsimp only at h hprompts ⊢
        rw [← hprompts] at h ⊢
        obtain ⟨hreplies, hshown⟩ := ih h
        refine ⟨?_, hshown⟩
        have hrest : (d.askAll (text :: texts)).2 = (d.ask text).2 :: ((d.ask text).1.askAll texts).2 :=
          rfl
        rw [hrest, hreply, hreplies, hahead, List.length_cons, List.range_succ_eq_map, List.map_cons,
          List.map_map]
        congr 1
        exact List.map_congr_left fun i _ => Reply.ofLines_tail d.ahead i

/-- However often lines are asked for, the replies are the lines of the text that the whole input
has, in order and each of them once, and after them the end of the input. Each request writes its
prompt once. No line depends on the bytes of another one. -/
theorem askAll_lines (texts : List Text) (d : Dialogue)
    (h : (d.prompts.displayAll texts).2 = none) :
    (d.askAll texts).2 =
        (List.range texts.length).map (Reply.ofLines (Utf8.decode d.input).lines) ∧
      (d.askAll texts).1.prompts = (d.prompts.displayAll texts).1 ∧
      (d.askAll texts).1.prompts.received = d.prompts.received ++ texts.flatMap Utf8.encode ∧
      ∀ as bs : Bytes, newline ∉ as →
        (Utf8.decode (as ++ newline :: bs)).lines =
          Utf8.decode (withoutReturn as) :: (Utf8.decode bs).lines := by
  obtain ⟨hreplies, hprompts⟩ := askAll_spec h
  refine ⟨hreplies, hprompts, ?_, lines_decode_append⟩
  rw [hprompts]
  exact Stream.received_displayAll h

/-- A sequence cut short by the end of its line, a second carriage return, and a last line that is
not ended. -/
theorem askAll_lines_broken :
    (Stream.displayAll (List.replicate 5 ['$', ' ']) {}).2 = none ∧
      (askAll (List.replicate 5 ['$', ' '])
        ⟨[0x61, 0xE2, 0x82, 0x0D, 0x0A, 0x0D, 0x0D, 0x0A, 0xFF], {}⟩).2 =
        [.line ['a', '\uFFFD'], .line ['\r'], .line ['\uFFFD'], .endOfInput, .endOfInput] := by
  have h : (Stream.displayAll (List.replicate 5 ['$', ' ']) {}).2 = none := by decide
  exact ⟨h, (askAll_lines _ ⟨[0x61, 0xE2, 0x82, 0x0D, 0x0A, 0x0D, 0x0D, 0x0A, 0xFF], {}⟩ h).1.trans
    (by decide)⟩

end Dialogue
end CommandShell
