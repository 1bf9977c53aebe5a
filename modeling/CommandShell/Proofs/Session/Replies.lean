import CommandShell.Proofs.Session.Rounds
/-! What the rounds of a loop get when its replies are settled in advance. -/
namespace CommandShell

variable {run : Runner} {text line : Text} {prompting : Bool} {sh : Shell} {s : Shell × Source}
  {rs : List Reply}

namespace Shell

/-- The shell after a prompt, if there are prompts, and what kept it from being shown. -/
def shown (prompting : Bool) (text : Text) (sh : Shell) : Shell × Option Fault :=
  ((prompt text (sh, .replies [] prompting)).1.1, (prompt text (sh, .replies [] prompting)).2)

/-- The shell after the prompt of a source. -/
abbrev prompted (text : Text) (s : Shell × Source) : Shell × Option Fault :=
  shown s.2.prompting text s.1

theorem prompt_eq (text : Text) (s : Shell × Source) :
    prompt text s = (((prompted text s).1, s.2), (prompted text s).2) := by
  obtain ⟨sh, source⟩ := s
  rw [prompted, shown, prompt, prompt, Source.prompting]
  cases source.prompting with
  | false => rfl
  | true =>
    rw [if_pos rfl, if_pos rfl]
    generalize World.print .own [text] sh.world = r
    obtain ⟨w, _ | cause⟩ := r
    · rfl
    · rfl

theorem request_eq (text : Text) (s : Shell × Source) :
    request (prompt text) take s =
      match (prompted text s).2 with
      | some cause => (((prompted text s).1, s.2), .failed cause)
      | none => take ((prompted text s).1, s.2) := by
  rw [request, prompt_eq]
  cases (prompted text s).2 with
  | none => rfl
  | some cause => rfl

theorem take_replies (prompting : Bool) (sh : Shell) (rs : List Reply) :
    take (sh, .replies rs prompting) =
      ((sh, .replies rs.tail prompting), rs.headD .endOfInput) := by
  cases rs with
  | nil => rfl
  | cons r rs => rfl

theorem reply_replies (prompting : Bool) (text : Text) (sh : Shell) (rs : List Reply) :
    reply text (sh, .replies rs prompting) =
      (shown prompting text sh).2.elim (rs.headD .endOfInput) .failed := by
  rw [reply, request_eq, take_replies, prompted, Source.prompting]
  cases (shown prompting text sh).2 with
  | none => rfl
  | some cause => rfl

/-- A line comes only after its prompt. -/
theorem take_of_line (h : reply text s = .line line) :
    asked text s = (take ((prompted text s).1, s.2)).1 ∧
      (take ((prompted text s).1, s.2)).2 = .line line := by
  rw [reply, request_eq] at h
  rw [asked, request_eq]
  cases hf : (prompted text s).2 with
  | none =>
    rw [hf] at h
    exact ⟨rfl, h⟩
  | some cause =>
    rw [hf] at h
    cases h

theorem asked_replies (prompting : Bool) (text : Text) (sh : Shell) (rs : List Reply) :
    asked text (sh, .replies rs prompting) =
      ((shown prompting text sh).1,
        .replies (if (shown prompting text sh).2 = none then rs.tail else rs) prompting) := by
  rw [asked, request_eq, take_replies, prompted, Source.prompting]
  cases (shown prompting text sh).2 with
  | none => rfl
  | some cause => rfl

/-- Lines are executed one after another, each after its prompt if there are prompts. -/
def executeAll (run : Runner) (prompting : Bool) (text : Text) (lines : List Text) (sh : Shell) :
    Shell :=
  lines.foldl (fun sh line => ((shown prompting text sh).1.execute run line).1) sh

/-- These lines are all that a session executes of its replies, and that is what it returns. -/
structure Executes (run : Runner) (prompting : Bool) (text : Text) (sh : Shell) (rs : List Reply)
    (lines : List Text) (ended : Shell × Option Fault) : Prop where
  /-- They are the first replies. -/
  first : rs.take lines.length = lines.map .line
  /-- Nothing has ended before any of them, and each prompt is shown. -/
  asked : ∀ i < lines.length,
    (executeAll run prompting text (lines.take i) sh).Live ∧
      (shown prompting text (executeAll run prompting text (lines.take i) sh)).2 = none
  /-- One of them ends the session, or one more prompt does or the reply to it. -/
  last :
    let done := executeAll run prompting text lines sh
    let reply := (shown prompting text done).2.elim (rs.getD lines.length .endOfInput) .failed
    if done.Live then
      (∀ line, reply ≠ .line line) ∧
        ended = ((shown prompting text done).1.conclude reply, reply.fault?)
    else ended = (done, none)

theorem executes_cons {rest : List Reply} {lines : List Text} {ended : Shell × Option Fault}
    (hl : sh.Live) (hs : (shown prompting text sh).2 = none)
    (h : Executes run prompting text ((shown prompting text sh).1.execute run line).1 rest lines
      ended) :
    Executes run prompting text sh (.line line :: rest) (line :: lines) ended := by
  refine ⟨by simp [h.first], fun i hi => ?_, h.last⟩
  cases i with
  | zero => exact ⟨hl, hs⟩
  | succ i => exact h.asked i (Nat.lt_of_succ_lt_succ hi)

theorem executes_of_not_live (h : ¬ sh.Live) :
    Executes run prompting text sh rs [] (sh, none) := by
  refine ⟨by simp, fun i hi => absurd hi (Nat.not_lt_zero i), ?_⟩
  exact (if_neg h).mpr rfl

theorem executes_of_other (h : sh.Live)
    (hr : ∀ line, reply text (sh, .replies rs prompting) ≠ .line line) :
    Executes run prompting text sh rs [] (ending run text (sh, .replies rs prompting) 1) := by
  have hhead : rs.headD .endOfInput = rs.getD 0 .endOfInput := by cases rs <;> rfl
  have hreply := reply_replies prompting text sh rs
  rw [hhead] at hreply
  refine ⟨by simp, fun i hi => absurd hi (Nat.not_lt_zero i), ?_⟩
  refine (if_pos h).mpr ⟨fun line hl => hr line (hreply.trans hl), ?_⟩
  rw [ending, rounds, rounds, rounds, round_of_other hr, asked_replies, hreply]
  rfl

theorem executes_nil (n : Nat)
    (h : ¬ (sh.Live ∧ ∃ line, reply text (sh, .replies rs prompting) = .line line)) :
    Executes run prompting text sh rs [] (loop run text (n + 1) sh (.replies rs prompting)) := by
  by_cases hlive : sh.Live
  · have hr : ∀ line, reply text (sh, .replies rs prompting) ≠ .line line :=
      fun line hl => h ⟨hlive, line, hl⟩
    have hloop := loop_of_other run n hlive hr
    dsimp only at hloop
    rw [hloop]
    exact executes_of_other hlive hr
  · have hloop := loop_of_not_live (s := (sh, .replies rs prompting)) run text (n + 1) hlive
    dsimp only at hloop
    rw [hloop]
    exact executes_of_not_live hlive

/-- The lines of settled replies are executed as they are, up to the end of the session. -/
theorem loop_replies {n : Nat} (hn : rs.length < n) (prompting : Bool) (sh : Shell) :
    ∃ lines,
      Executes run prompting text sh rs lines (loop run text n sh (.replies rs prompting)) := by
  induction rs generalizing n sh with
  | nil =>
    cases n with
    | zero => exact absurd hn (Nat.not_lt_zero _)
    | succ n =>
      refine ⟨[], executes_nil n ?_⟩
      rintro ⟨-, line, hl⟩
      rw [reply_replies] at hl
      cases hs : (shown prompting text sh).2 <;> simp [hs] at hl
  | cons r rs ih =>
    cases n with
    | zero => exact absurd hn (Nat.not_lt_zero _)
    | succ n =>
      by_cases h : sh.Live ∧ ∃ line, reply text (sh, .replies (r :: rs) prompting) = .line line
      · obtain ⟨hlive, line, hl⟩ := h
        have hloop := loop_of_line (s := (sh, .replies (r :: rs) prompting)) run n hlive hl
        rw [round_of_line hl, asked_replies] at hloop
        rw [reply_replies] at hl
        cases hs : (shown prompting text sh).2 with
        | some cause => simp [hs] at hl
        | none =>
          obtain rfl : r = .line line := by simpa [hs] using hl
          obtain ⟨lines, hlines⟩ :=
            ih (Nat.lt_of_succ_lt_succ hn) ((shown prompting text sh).1.execute run line).1
          refine ⟨line :: lines, executes_cons hlive hs ?_⟩
          simp only [hs, if_true] at hloop
          rw [hloop]
          exact hlines
      · exact ⟨[], executes_nil n h⟩

end Shell
end CommandShell
