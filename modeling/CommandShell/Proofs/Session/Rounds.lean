import CommandShell.Proofs.Session.Act
import CommandShell.Session.Loop
/-! The loop in rounds. A round is one request for a line and, when a line comes, its execution. -/
namespace CommandShell

/-- Why no reply could be had. -/
def Reply.fault? : Reply → Option Fault
  | .failed cause => some cause
  | _ => none

namespace Shell

variable {run : Runner} {text : Text} {sh : Shell} {s : Shell × Source} {n i : Nat}

/-- The session was not asked to end, and no signal ended the process. -/
def Live (sh : Shell) : Prop := sh.session.exiting = false ∧ sh.world.killedBy = none

instance (sh : Shell) : Decidable sh.Live := inferInstanceAs (Decidable (_ ∧ _))

def reply (text : Text) (s : Shell × Source) : Reply := (request (prompt text) take s).2

/-- How things are once the reply is there. -/
def asked (text : Text) (s : Shell × Source) : Shell × Source := (request (prompt text) take s).1

def round (run : Runner) (text : Text) (s : Shell × Source) : Shell × Source :=
  match reply text s with
  | .line line => (((asked text s).1.execute run line).1, (asked text s).2)
  | _ => asked text s

def rounds (run : Runner) (text : Text) : Nat → Shell × Source → Shell × Source
  | 0, s => s
  | n + 1, s => rounds run text n (round run text s)

/-- Whether there is a round after so many: each one before it brought a line, and none of the lines
ended anything. -/
def Asks (run : Runner) (text : Text) (s : Shell × Source) (i : Nat) : Prop :=
  (∀ j ≤ i, (rounds run text j s).1.Live) ∧
    ∀ j < i, ∃ line, reply text (rounds run text j s) = .line line

/-- A session takes note of why it asks for no more lines. -/
def conclude : Reply → Shell → Shell
  | .endOfInput, sh => sh.note .endOfInput
  | .interrupted, sh => sh.note .interrupted
  | _, sh => sh

/-- What the loop returns after so many rounds. -/
def ending (run : Runner) (text : Text) (s : Shell × Source) : Nat → Shell × Option Fault
  | 0 => (s.1, none)
  | n + 1 =>
    let last := reply text (rounds run text n s)
    ((rounds run text (n + 1) s).1.conclude last, last.fault?)

theorem rounds_succ (n : Nat) (s : Shell × Source) :
    rounds run text (n + 1) s = round run text (rounds run text n s) := by
  induction n generalizing s with
  | zero => rfl
  | succ n ih => exact ih (round run text s)

theorem round_of_line {line : Text} (h : reply text s = .line line) :
    round run text s = (((asked text s).1.execute run line).1, (asked text s).2) := by
  rw [round, h]

theorem round_of_other (h : ∀ line, reply text s ≠ .line line) :
    round run text s = asked text s := by
  unfold round
  split
  · exact absurd ‹_› (h _)
  · rfl

theorem asks_zero : Asks run text s 0 ↔ s.1.Live := by
  constructor
  · intro h
    exact h.1 0 (Nat.le_refl 0)
  · intro h
    refine ⟨fun j hj => ?_, fun j hj => absurd hj (Nat.not_lt_zero j)⟩
    obtain rfl : j = 0 := by omega
    exact h

theorem asks_succ : Asks run text s (i + 1) ↔
    s.1.Live ∧ (∃ line, reply text s = .line line) ∧ Asks run text (round run text s) i := by
  constructor
  · rintro ⟨hlive, hline⟩
    refine ⟨hlive 0 (Nat.zero_le _), hline 0 (Nat.succ_pos _), ?_, ?_⟩
    · exact fun j hj => hlive (j + 1) (Nat.succ_le_succ hj)
    · exact fun j hj => hline (j + 1) (Nat.succ_lt_succ hj)
  · rintro ⟨hlive, hline, hlive', hline'⟩
    refine ⟨fun j hj => ?_, fun j hj => ?_⟩
    · cases j with
      | zero => exact hlive
      | succ j => exact hlive' j (Nat.le_of_succ_le_succ hj)
    · cases j with
      | zero => exact hline
      | succ j => exact hline' j (Nat.lt_of_succ_lt_succ hj)

theorem loop_of_not_live (run : Runner) (text : Text) (n : Nat) (h : ¬ s.1.Live) :
    loop run text n s.1 s.2 = (s.1, none) := by
  cases n with
  | zero => rfl
  | succ n =>
    have hend : (s.1.session.exiting || s.1.world.killedBy.isSome) = true := by
      cases he : s.1.session.exiting with
      | true => rfl
      | false =>
        cases hk : s.1.world.killedBy with
        | none => exact absurd ⟨he, hk⟩ h
        | some signal => rfl
    rw [loop, if_pos hend]

theorem loop_of_line {line : Text} (run : Runner) (n : Nat) (h : s.1.Live)
    (hr : reply text s = .line line) :
    loop run text (n + 1) s.1 s.2 = loop run text n (round run text s).1 (round run text s).2 := by
  obtain ⟨hexit, hkill⟩ := h
  rw [loop, round_of_line hr]
  simp only [hexit, hkill, Option.isSome_none, Bool.or_self, Bool.false_eq_true, if_false]
  unfold reply at hr
  unfold asked
  generalize request (prompt text) take (s.1, s.2) = r at hr ⊢
  obtain ⟨⟨sh, source⟩, answer⟩ := r
  subst hr
  rfl

theorem loop_of_other (run : Runner) (n : Nat) (h : s.1.Live)
    (hr : ∀ line, reply text s ≠ .line line) :
    loop run text (n + 1) s.1 s.2 = ending run text s 1 := by
  obtain ⟨hexit, hkill⟩ := h
  rw [loop, ending]
  simp only [rounds, round_of_other hr, hexit, hkill, Option.isSome_none, Bool.or_self,
    Bool.false_eq_true, if_false]
  unfold reply at hr ⊢
  unfold asked
  generalize request (prompt text) take (s.1, s.2) = r at hr ⊢
  obtain ⟨⟨sh, source⟩, answer⟩ := r
  cases answer with
  | line line => exact absurd rfl (hr line)
  | endOfInput => rfl
  | interrupted => rfl
  | failed cause => rfl

/-- The loop goes on for as many rounds as there is reason to ask, up to its limit. -/
theorem loop_eq_ending (run : Runner) (text : Text) (n : Nat) (s : Shell × Source) :
    ∃ k, (∀ i, i < k ↔ i < n ∧ Asks run text s i) ∧
      loop run text n s.1 s.2 = ending run text s k := by
  induction n generalizing s with
  | zero => exact ⟨0, by simp, rfl⟩
  | succ n ih =>
    by_cases hlive : s.1.Live
    · by_cases hline : ∃ line, reply text s = .line line
      · obtain ⟨k, hk, hloop⟩ := ih (round run text s)
        refine ⟨k + 1, fun i => ?_, ?_⟩
        · cases i with
          | zero => simpa [asks_zero] using hlive
          | succ i => simp [asks_succ, hlive, hline, hk]
        · obtain ⟨line, hr⟩ := hline
          rw [loop_of_line run n hlive hr, hloop]
          cases k with
          | zero => simp [ending, rounds, hr, conclude, Reply.fault?]
          | succ k => rfl
      · have hline' : ∀ line, reply text s ≠ .line line := fun line hr => hline ⟨line, hr⟩
        refine ⟨1, fun i => ?_, loop_of_other run n hlive hline'⟩
        cases i with
        | zero => simpa [asks_zero] using hlive
        | succ i => simp [asks_succ, hline]
    · refine ⟨0, fun i => ?_, loop_of_not_live run text (n + 1) hlive⟩
      have hnot : ¬ Asks run text s i := fun h => hlive (h.1 0 (Nat.zero_le i))
      simp [hnot]

theorem ending_failed_iff {k : Nat} {cause : Fault} :
    (ending run text s k).2 = some cause ↔
      ∃ i, k = i + 1 ∧ reply text (rounds run text i s) = .failed cause := by
  cases k with
  | zero => simp [ending]
  | succ k =>
    simp only [ending, Nat.add_right_cancel_iff, exists_eq_left']
    cases reply text (rounds run text k s) <;> simp [Reply.fault?]

end Shell
end CommandShell
