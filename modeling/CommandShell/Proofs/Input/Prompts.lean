import CommandShell.Proofs.Input.Lines
/-! Prompts that fail. Input is taken only once the prompt is shown, so a request whose prompt fails
costs no line, and all other requests get the lines they would get without it. -/
namespace CommandShell

variable {ls : List Text} {cause : Fault}

namespace Reply

/-- The request came to the input. -/
def isAnswer : Reply → Bool
  | failed _ => false
  | _ => true

def line? : Reply → Option Text
  | line text => some text
  | _ => none

theorem isAnswer_ofLines (ls : List Text) (i : Nat) : (ofLines ls i).isAnswer = true := by
  unfold ofLines
  split <;> rfl

theorem filterMap_line?_filter (rs : List Reply) :
    (rs.filter isAnswer).filterMap line? = rs.filterMap line? := by
  induction rs with
  | nil => rfl
  | cons r rs ih =>
    cases r with
    | failed cause => simpa [List.filter_cons, List.filterMap_cons, isAnswer, line?] using ih
    | line text => simpa [List.filter_cons, List.filterMap_cons, isAnswer, line?] using ih
    | endOfInput => simpa [List.filter_cons, List.filterMap_cons, isAnswer, line?] using ih
    | interrupted => simpa [List.filter_cons, List.filterMap_cons, isAnswer, line?] using ih

/-- The first answers have the first lines. -/
theorem filterMap_line?_ofLines (ls : List Text) (n : Nat) :
    ((List.range n).map (ofLines ls)).filterMap line? = ls.take n := by
  induction n with
  | zero => rfl
  | succ n ih =>
    rw [List.range_succ, List.map_append, List.filterMap_append, ih, List.map_singleton,
      List.take_add_one]
    unfold ofLines
    cases ls[n]? <;> rfl

theorem length_le_of_ofLines {n : Nat} (h : ofLines ls n = .endOfInput) : ls.length ≤ n := by
  unfold ofLines at h
  split at h
  · cases h
  · exact List.getElem?_eq_none_iff.1 ‹_›

end Reply

namespace Dialogue

variable {d d' : Dialogue} {text : Text} {texts before after : List Text}

theorem askAll_cons (text : Text) (texts : List Text) (d : Dialogue) :
    (d.askAll (text :: texts)).2 = (d.ask text).2 :: ((d.ask text).1.askAll texts).2 := rfl

theorem askAll_append (before after : List Text) (d : Dialogue) :
    (d.askAll (before ++ after)).2 =
      (d.askAll before).2 ++ ((d.askAll before).1.askAll after).2 := by
  induction before generalizing d with
  | nil => rfl
  | cons text before ih =>
    rw [List.cons_append, askAll_cons, ih, askAll_cons, List.cons_append]
    rfl

theorem length_askAll (texts : List Text) (d : Dialogue) :
    (d.askAll texts).2.length = texts.length := by
  induction texts generalizing d with
  | nil => rfl
  | cons text texts ih => rw [askAll_cons, List.length_cons, ih, List.length_cons]

/-- Whatever part of the prompt has been written, the input is as it was. -/
theorem ask_failed (h : (d.prompts.display text).2 = some cause) :
    d.ask text = (⟨d.input, (d.prompts.display text).1⟩, .failed cause) := by
  rw [ask, request, prompt, h]

/-- What a request does to the input is up to its prompt alone. -/
theorem ask_cases (text : Text) (d : Dialogue) :
    (∃ cause, (d.ask text).2 = .failed cause ∧ (d.ask text).1.ahead = d.ahead) ∨
      ((d.ask text).2 = Reply.ofLines d.ahead 0 ∧ (d.ask text).1.ahead = d.ahead.tail) := by
  cases h : (d.prompts.display text).2 with
  | none =>
    obtain ⟨-, hreply, hahead⟩ := ask_spec h
    exact Or.inr ⟨hreply, hahead⟩
  | some cause =>
    rw [ask_failed h]
    exact Or.inl ⟨cause, rfl, rfl⟩

/-- The requests that came to the input get its lines, and then its end. -/
theorem answers_askAll (texts : List Text) (d : Dialogue) :
    ∃ n, n ≤ texts.length ∧
      (d.askAll texts).2.filter Reply.isAnswer = (List.range n).map (Reply.ofLines d.ahead) := by
  induction texts generalizing d with
  | nil => exact ⟨0, Nat.le_refl 0, rfl⟩
  | cons text texts ih =>
    obtain ⟨n, hn, hrest⟩ := ih (d.ask text).1
    rw [askAll_cons]
    rcases ask_cases text d with ⟨cause, hreply, hahead⟩ | ⟨hreply, hahead⟩
    · refine ⟨n, Nat.le_succ_of_le hn, ?_⟩
      rw [hreply, List.filter_cons_of_neg (by simp [Reply.isAnswer]), hrest, hahead]
    · refine ⟨n + 1, Nat.succ_le_succ hn, ?_⟩
      rw [hreply, List.filter_cons_of_pos (Reply.isAnswer_ofLines _ _), hrest, hahead,
        List.range_succ_eq_map, List.map_cons, List.map_map]
      congr 1
      apply List.map_congr_left
      intro i _
      exact Reply.ofLines_tail d.ahead i

theorem answers_prefix (hinput : d'.input = d.input)
    (h : (d'.prompts.displayAll texts).2 = none) :
    (d.askAll texts).2.filter Reply.isAnswer <+: (d'.askAll texts).2 := by
  obtain ⟨n, hn, hanswers⟩ := answers_askAll texts d
  have hahead : d'.ahead = d.ahead := by rw [ahead, hinput, ahead]
  rw [hanswers, (askAll_spec h).1, hahead]
  have hrange : List.range n = (List.range texts.length).take n := by
    rw [List.take_range, Nat.min_eq_left hn]
  rw [hrange, List.map_take]
  exact List.take_prefix _ _

theorem lines_prefix (texts : List Text) (d : Dialogue) :
    (d.askAll texts).2.filterMap Reply.line? <+: d.ahead := by
  obtain ⟨n, -, hanswers⟩ := answers_askAll texts d
  rw [← Reply.filterMap_line?_filter, hanswers, Reply.filterMap_line?_ofLines]
  exact List.take_prefix n d.ahead

/-- The end of the input comes after all lines. -/
theorem lines_before_end {replies rest : List Reply}
    (h : (d.askAll texts).2 = replies ++ .endOfInput :: rest) :
    replies.filterMap Reply.line? = d.ahead := by
  obtain ⟨n, -, hanswers⟩ := answers_askAll texts d
  rw [h, List.filter_append, List.filter_cons_of_pos rfl] at hanswers
  obtain ⟨as, bs, hrange, has, hbs⟩ := List.append_eq_map_iff.1 hanswers
  obtain ⟨i, bs', rfl, hend, -⟩ := List.map_eq_cons_iff.1 hbs
  rw [List.range_eq_range', List.range'_eq_append_iff] at hrange
  obtain ⟨k, -, rfl, hbs⟩ := hrange
  obtain ⟨hi, -⟩ := List.range'_eq_cons_iff.1 hbs.symm
  have hk : d.ahead.length ≤ k := by
    apply Reply.length_le_of_ofLines
    rwa [← hi, Nat.zero_add, Nat.mul_one] at hend
  rw [← Reply.filterMap_line?_filter, ← has, ← List.range_eq_range',
    Reply.filterMap_line?_ofLines, List.take_of_length_le hk]

/-- A request whose prompt fails fails with it and leaves the input as it was, down to the byte. All
others get, in order and without a gap, what as many requests get whose prompts do not fail, and the
end of the input only after all lines. -/
theorem askAll_undisturbed (texts : List Text) (d : Dialogue) :
    (∀ before text after, texts = before ++ text :: after →
      let now := (d.askAll before).1
      let shown := now.prompts.display text
      (d.askAll texts).2[before.length]? = some (now.ask text).2 ∧
        (∀ cause, shown.2 = some cause → now.ask text = (⟨now.input, shown.1⟩, .failed cause)) ∧
        (shown.2 = none → (now.ask text).2.isAnswer = true)) ∧
      (∀ d' : Dialogue, d'.input = d.input → (d'.prompts.displayAll texts).2 = none →
        (d.askAll texts).2.filter Reply.isAnswer <+: (d'.askAll texts).2 ∧
          (d.askAll texts).2.filterMap Reply.line? <+: (d'.askAll texts).2.filterMap Reply.line?) ∧
      (d.askAll texts).2.filterMap Reply.line? <+: (Utf8.decode d.input).lines ∧
      ∀ replies rest, (d.askAll texts).2 = replies ++ .endOfInput :: rest →
        replies.filterMap Reply.line? = (Utf8.decode d.input).lines := by
  refine ⟨?_, ?_, lines_prefix texts d, fun replies rest h => lines_before_end h⟩
  · rintro before text after rfl
    refine ⟨?_, fun cause h => ask_failed h, fun h => ?_⟩
    · rw [askAll_append, List.getElem?_append_right (Nat.le_of_eq (length_askAll before d)),
        length_askAll, Nat.sub_self, askAll_cons, List.getElem?_cons_zero]
    · rw [(ask_spec h).2.1]
      exact Reply.isAnswer_ofLines _ 0
  · intro d' hinput h
    have hpre := answers_prefix hinput h
    refine ⟨hpre, ?_⟩
    rw [← Reply.filterMap_line?_filter]
    exact hpre.filterMap Reply.line?

def dollars (n : Nat) : List Text := List.replicate n ['$', ' ']

/-- Two lines, and an output that keeps half of a prompt, fails to flush one, and refuses another. -/
def brittle : Dialogue where
  input := [0x61, 0x0A, 0x62]
  prompts :=
    { answers := [.refuse 1 .outOfRoom, .comply, .refuse 0 .outOfRoom, .comply, .comply,
        .refuse 0 .outOfRoom] }

theorem askAll_undisturbed_brittle :
    dollars 6 = dollars 1 ++ ['$', ' '] :: dollars 4 ∧
      (brittle.askAll (dollars 1)).1.ask ['$', ' '] =
        (⟨brittle.input, ⟨[0x24, 0x24, 0x20], none, [.comply, .comply, .refuse 0 .outOfRoom]⟩⟩,
          .failed .outOfRoom) ∧
      (Stream.displayAll (dollars 6) {}).2 = none ∧
      (brittle.askAll (dollars 6)).2.filter Reply.isAnswer <+:
        (askAll (dollars 6) ⟨brittle.input, {}⟩).2 ∧
      (brittle.askAll (dollars 6)).2 =
        [.failed .outOfRoom, .failed .outOfRoom, .line ['a'], .failed .outOfRoom, .line ['b'],
          .endOfInput] ∧
      (Utf8.decode brittle.input).lines = [['a'], ['b']] := by
  obtain ⟨hrequest, hundisturbed, -, hend⟩ := askAll_undisturbed (dollars 6) brittle
  have hsplit : dollars 6 = dollars 1 ++ ['$', ' '] :: dollars 4 := by decide
  have hfailed := (hrequest (dollars 1) ['$', ' '] (dollars 4) hsplit).2.1 .outOfRoom (by decide)
  have hfine : (Stream.displayAll (dollars 6) {}).2 = none := by decide
  have hreplies : (brittle.askAll (dollars 6)).2 =
      [.failed .outOfRoom, .failed .outOfRoom, .line ['a'], .failed .outOfRoom, .line ['b'],
        .endOfInput] := by decide
  refine ⟨hsplit, hfailed.trans (by decide), hfine,
    (hundisturbed ⟨brittle.input, {}⟩ rfl hfine).1, hreplies, ?_⟩
  have hlast : (brittle.askAll (dollars 6)).2 =
      [.failed .outOfRoom, .failed .outOfRoom, .line ['a'], .failed .outOfRoom, .line ['b']] ++
        [.endOfInput] := hreplies
  exact (hend _ [] hlast).symm

end Dialogue
end CommandShell
