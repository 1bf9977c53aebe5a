import CommandShell.Proofs.Line.Apart
import Mathlib.Data.List.Induction
/-! Lines that leave something open. Their end does what the missing quote would have done, and a
backslash that waits outside quotes could as well be left out. -/
namespace CommandShell

variable {m : Mode} {s : Scanner} {line line' t : Text}

/-- The quote that is open. -/
def Mode.quote? : Mode → Option Char
  | .plain | .escaped => none
  | .single => some '\''
  | .double | .doubleEscaped => some '"'

/-- Behind a backslash that may escape the next character. -/
def Mode.Waiting (m : Mode) : Prop := m = .escaped ∨ m = .doubleEscaped

/-- The last character is a backslash, and those right before it make up pairs. -/
def Unpaired (t : Text) : Prop := (t.reverse.takeWhile (· == '\\')).length % 2 = 1

instance : DecidablePred Unpaired := fun _ => inferInstanceAs (Decidable (_ = _))

theorem not_unpaired_nil : ¬ Unpaired [] := by decide

theorem unpaired_concat (t : Text) (c : Char) : Unpaired (t ++ [c]) ↔ c = '\\' ∧ ¬ Unpaired t := by
  by_cases hc : c = '\\'
  · subst hc
    simp only [Unpaired, List.reverse_append, List.reverse_singleton, List.singleton_append,
      List.takeWhile_cons, beq_self_eq_true, if_true, List.length_cons, true_and]
    omega
  · simp [Unpaired, hc]

namespace Scanner

/-- Only a backslash waits for the next character, and only if none waits for it. -/
theorem waiting_step (hs : s.mode ≠ .single) (c : Char) :
    (s.step c).mode.Waiting ↔ c = '\\' ∧ ¬ s.mode.Waiting := by
  by_cases hc : c = '\\'
  · subst hc
    cases hm : s.mode with
    | single => exact absurd hm hs
    | plain => simp [step, hm, Mode.Waiting, isBlank_backslash]
    | escaped => simp [step, hm, Mode.Waiting]
    | double => simp [step, hm, Mode.Waiting]
    | doubleEscaped => simp [step, hm, Mode.Waiting]
  · refine iff_of_false ?_ fun h => hc h.1
    cases hm : s.mode with
    | single => exact absurd hm hs
    | plain =>
      have hend : s.endWord.mode = .plain := by rw [endWord_eq, hm]
      simp only [step, hm]
      split
      · simp [hend, Mode.Waiting]
      · repeat' split
        all_goals simp_all [push, Mode.Waiting]
    | escaped => simp [step, hm, Mode.Waiting]
    | double => by_cases hd : c = '"' <;> simp [step, push, hm, hc, hd, Mode.Waiting]
    | doubleEscaped => by_cases hd : c = '"' <;> simp [step, hm, hc, hd, Mode.Waiting]

end Scanner

/-- Outside single quotes the scanner waits behind the backslashes that are unpaired. -/
theorem waiting_iff (hm : (scan line).mode ≠ .single) :
    (scan line).mode.Waiting ↔ Unpaired line := by
  induction line using List.reverseRecOn with
  | nil => exact iff_of_false (by simp [scan, Mode.Waiting]) not_unpaired_nil
  | append_singleton t c ih =>
    rw [scan_concat] at hm ⊢
    rw [unpaired_concat]
    by_cases hs : (scan t).mode = .single
    · by_cases hq : c = '\''
      · subst hq
        simp [Scanner.step, hs, Mode.Waiting]
      · exact absurd (by simp [Scanner.step, Scanner.push, hs, hq]) hm
    · rw [Scanner.waiting_step hs, ih hs]

theorem unpaired_iff (hm : (scan line).mode = m) (hs : m ≠ .single) : Unpaired line ↔ m.Waiting := by
  subst hm
  exact (waiting_iff hs).symm

/-- A line that leaves nothing open and has the words of another. -/
structure Completes (line' line : Text) : Prop where
  mode_eq : (scan line').mode = .plain
  tokens_eq : tokens line' = tokens line

/-- It is enough to leave the quotes, unless a backslash waits between them. -/
theorem completes_of_scan (hs : (scan line).mode ≠ .doubleEscaped)
    (h : scan line' = { scan line with mode := .plain }) : Completes line' line := by
  have hm : (scan line').mode = .plain := by rw [h]
  refine ⟨hm, ?_⟩
  have hfinish : (scan line').finish = (scan line).finish := by
    rw [Scanner.finish_eq (by simp [hm]), Scanner.finish_eq hs, h]
  exact hfinish

theorem completes_single (hm : (scan line).mode = .single) : Completes (line ++ ['\'']) line := by
  refine completes_of_scan (by simp [hm]) ?_
  rw [scan_concat]
  simp [Scanner.step, hm]

theorem completes_double (hm : (scan line).mode = .double) : Completes (line ++ ['"']) line := by
  refine completes_of_scan (by simp [hm]) ?_
  rw [scan_concat]
  simp [Scanner.step, hm]

/-- A backslash that waits outside quotes leaves no trace. -/
theorem completes_escaped (hm : (scan line).mode = .escaped) : Completes line.dropLast line := by
  obtain ⟨t, rfl, ht⟩ : ∃ t, line = t ++ ['\\'] ∧ Closed t := by
    have hstops := (stops_iff line).2 hm
    cases hstops with
    | escaped ht => exact ⟨_, rfl, ht⟩
  obtain ⟨w, ws, hs⟩ := ht.scan_eq
  refine completes_of_scan (by simp [hm]) ?_
  rw [List.dropLast_concat, scan_concat, hs]
  simp [Scanner.step, isBlank_backslash]

/-- One that waits between double quotes is kept, as if another had escaped it. -/
theorem completes_doubleEscaped (hm : (scan line).mode = .doubleEscaped) :
    Completes (line ++ ['\\', '"']) line := by
  have hscan : scan (line ++ ['\\', '"']) = { (scan line).push '\\' with mode := .plain } := by
    rw [List.append_cons, scan_concat, scan_concat]
    simp [Scanner.step, hm]
  have hfinish : (scan (line ++ ['\\', '"'])).finish = (scan line).finish := by
    rw [hscan]
    simp [Scanner.finish, hm, Scanner.endWord, Scanner.push]
  exact ⟨by rw [hscan], hfinish⟩

/-- Behind that one, the missing quote alone is a letter instead. -/
theorem tokens_ne_of_doubleEscaped (hm : (scan line).mode = .doubleEscaped) :
    tokens (line ++ ['"']) ≠ tokens line := by
  have hscan : scan (line ++ ['"']) = { (scan line).push '"' with mode := .double } := by
    rw [scan_concat]
    simp [Scanner.step, hm]
  intro he
  have hletters : (scan (line ++ ['"'])).finish.flatten = (scan line).finish.flatten :=
    congrArg List.flatten he
  rw [hscan, Scanner.flatten_finish, Scanner.flatten_finish] at hletters
  simp [hm, Scanner.letters, Scanner.push] at hletters

/-- Whatever is open at the end of a line is closed there: quotes as by the quote that is missing, a
backslash between double quotes as if it had been escaped, and one outside quotes as if it had not
been there. So the words of every line are those of a closed one. -/
theorem tokens_completed (line : Text) :
    ((scan line).mode.quote? = some '\'' → Completes (line ++ ['\'']) line) ∧
      ((scan line).mode.quote? = some '"' → ¬ Unpaired line → Completes (line ++ ['"']) line) ∧
      ((scan line).mode.quote? = some '"' → Unpaired line →
        Completes (line ++ ['\\', '"']) line ∧ tokens (line ++ ['"']) ≠ tokens line) ∧
      ((scan line).mode.quote? = none → Unpaired line → Completes line.dropLast line) ∧
      ((scan line).mode.quote? = none → ¬ Unpaired line → Completes line line) ∧
      ∃ line', Closed line' ∧ tokens line' = tokens line := by
  have hclosed : ∀ {line'}, Completes line' line → ∃ line', Closed line' ∧ tokens line' = tokens line :=
    fun h => ⟨_, closed_iff.2 h.mode_eq, h.tokens_eq⟩
  cases hm : (scan line).mode with
  | plain =>
    have hu : ¬ Unpaired line := by
      intro hu
      rcases (unpaired_iff hm nofun).1 hu with h | h <;> cases h
    have h : Completes line line := ⟨hm, rfl⟩
    exact ⟨nofun, nofun, nofun, fun _ hu' => absurd hu' hu, fun _ _ => h, hclosed h⟩
  | escaped =>
    have hu : Unpaired line := (unpaired_iff hm nofun).2 (Or.inl rfl)
    have h := completes_escaped hm
    exact ⟨nofun, nofun, nofun, fun _ _ => h, fun _ hu' => absurd hu hu', hclosed h⟩
  | single =>
    have h := completes_single hm
    exact ⟨fun _ => h, nofun, nofun, nofun, nofun, hclosed h⟩
  | double =>
    have hu : ¬ Unpaired line := by
      intro hu
      rcases (unpaired_iff hm nofun).1 hu with h | h <;> cases h
    have h := completes_double hm
    exact ⟨nofun, fun _ _ => h, fun _ hu' => absurd hu' hu, nofun, nofun, hclosed h⟩
  | doubleEscaped =>
    have hu : Unpaired line := (unpaired_iff hm nofun).2 (Or.inr rfl)
    have h := completes_doubleEscaped hm
    exact ⟨nofun, fun _ hu' => absurd hu hu', fun _ _ => ⟨h, tokens_ne_of_doubleEscaped hm⟩,
      nofun, nofun, hclosed h⟩

/-- Backslashes at the end: between single quotes, in a pair and by itself between double quotes, and
behind a pair outside quotes. -/
theorem tokens_completed_backslashes :
    ((scan ['\'', '\\']).mode.quote? = some '\'' ∧
        Completes ['\'', '\\', '\''] ['\'', '\\']) ∧
      ((scan ['"', '\\', '\\']).mode.quote? = some '"' ∧ ¬ Unpaired ['"', '\\', '\\'] ∧
        Completes ['"', '\\', '\\', '"'] ['"', '\\', '\\']) ∧
      ((scan ['"', '\\', '"', '\\']).mode.quote? = some '"' ∧ Unpaired ['"', '\\', '"', '\\'] ∧
        Completes ['"', '\\', '"', '\\', '\\', '"'] ['"', '\\', '"', '\\'] ∧
        tokens ['"', '\\', '"', '\\'] = [['"', '\\']]) ∧
      (scan ['\\', '\\', '\\']).mode.quote? = none ∧ Unpaired ['\\', '\\', '\\'] ∧
        Completes ['\\', '\\'] ['\\', '\\', '\\'] := by
  have hsingle : (scan ['\'', '\\']).mode.quote? = some '\'' := by decide
  have hpaired : (scan ['"', '\\', '\\']).mode.quote? = some '"' := by decide
  have hp : ¬ Unpaired ['"', '\\', '\\'] := by decide
  have hdouble : (scan ['"', '\\', '"', '\\']).mode.quote? = some '"' := by decide
  have hd : Unpaired ['"', '\\', '"', '\\'] := by decide
  have hnone : (scan ['\\', '\\', '\\']).mode.quote? = none := by decide
  have hu : Unpaired ['\\', '\\', '\\'] := by decide
  exact ⟨⟨hsingle, (tokens_completed _).1 hsingle⟩, ⟨hpaired, hp, (tokens_completed _).2.1 hpaired hp⟩,
    ⟨hdouble, hd, ((tokens_completed _).2.2.1 hdouble hd).1, by decide⟩,
    hnone, hu, (tokens_completed _).2.2.2.1 hnone hu⟩

end CommandShell
