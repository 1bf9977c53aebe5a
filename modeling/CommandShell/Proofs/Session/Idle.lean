import CommandShell.Proofs.Line.Decoding
import CommandShell.Proofs.Line.Settled
import CommandShell.Proofs.Line.Style
import CommandShell.Proofs.Session.Repl
import CommandShell.Proofs.Session.Targets
/-! Lines that ask for nothing. Such a line has no words but perhaps an operator, and it is passed over
as if it had not been there. -/
namespace CommandShell

variable {line : Text} {ts ws : List Text} {rs : Redirects} {its : List Item} {c : Command}

/-- The line has no words, or none but an operator by itself. -/
def Idle (line : Text) : Prop := tokens line = [] ∨ ∃ t fd, tokens line = [t] ∧ Bare t fd

theorem items_eq_nil_iff : items ts = [] ↔ ts = [] ∨ ∃ t fd, ts = [t] ∧ Bare t fd := by
  constructor
  · intro hnil
    obtain ⟨waiting, hs⟩ := segmented_items ts
    rw [hnil] at hs
    cases hs with
    | done => exact Or.inl rfl
    | waiting h => exact Or.inr ⟨_, _, rfl, h⟩
  · rintro (rfl | ⟨t, fd, rfl, h⟩)
    · rfl
    · exact (Segmented.waiting h).items_eq

theorem Command.ofWords?_eq_none_iff : ofWords? ws = none ↔ ws = [] := by
  cases ws <;> simp [ofWords?]

theorem Command.name_mem (h : ofWords? ws = some c) : c.name ∈ ws := by
  cases ws with
  | nil => cases h
  | cons name arguments =>
    cases h
    exact List.mem_cons_self ..

/-- A line asks for what its items are, if there are any. -/
theorem CommandLine.parse?_eq (line : Text) :
    parse? line =
      if items (tokens line) = [] then none
      else some ⟨Command.ofWords? (extract (tokens line)).1, (extract (tokens line)).2⟩ := by
  have hempty : ((Command.ofWords? (extract (tokens line)).1).isNone &&
      (extract (tokens line)).2.isEmpty) = true ↔ items (tokens line) = [] := by
    rw [Bool.and_eq_true, Option.isNone_iff_eq_none, Command.ofWords?_eq_none_iff,
      List.isEmpty_iff]
    constructor
    · rintro ⟨hw, hr⟩
      exact eq_nil_of_extracted hw hr
    · intro hnil
      rw [extract, hnil]
      exact ⟨rfl, rfl⟩
  rw [parse?]
  simp only [hempty]

/-- A command has a name that is not empty, since no word of a line is. -/
theorem name_ne_nil (h : Command.ofWords? (extract (tokens line)).1 = some c) : c.name ≠ [] := by
  obtain ⟨waiting, hs⟩ := segmented_items (tokens line)
  have hmem := (hs.of_mem_words c.name (Command.name_mem h)).1
  intro hnil
  rw [hnil] at hmem
  exact nil_notMem_tokens line hmem

/-- What is left without a command is a redirection. -/
theorem redirects_ne_nil (h : Command.ofWords? (extract (tokens line)).1 = none)
    (hne : items (tokens line) ≠ []) : (extract (tokens line)).2 ≠ [] := fun hr =>
  hne (eq_nil_of_extracted (Command.ofWords?_eq_none_iff.1 h) hr)

/-- A line asks for nothing exactly if it is idle, and then nothing at all comes of it. Every other line
asks for a command, which has a name, or for a redirection. -/
theorem idle_lines (line : Text) :
    (CommandLine.parse? line = none ↔ Idle line) ∧
      (Idle line → ∀ run (sh : Shell), sh.execute run line = (sh, 0)) ∧
      (¬ Idle line → ∃ l, CommandLine.parse? line = some l ∧
        (∀ c, l.command = some c → c.name ≠ []) ∧ (l.command = none → l.redirects ≠ [])) := by
  have hnone : CommandLine.parse? line = none ↔ Idle line := by
    rw [CommandLine.parse?_eq, Idle, ← items_eq_nil_iff]
    simp
  refine ⟨hnone, fun h run sh => Shell.execute_blank (hnone.2 h), fun h => ?_⟩
  have hne : items (tokens line) ≠ [] := fun hnil => h (items_eq_nil_iff.1 hnil)
  rw [CommandLine.parse?_eq, if_neg hne]
  exact ⟨_, rfl, fun c hc => name_ne_nil hc, fun hc => redirects_ne_nil hc hne⟩

/-- Quoted words are empty around an operator, and a number is too large for one. -/
theorem idle_lines_samples :
    Idle "'' 007> \"\"" ∧ Shell.sampleShell.execute idleRunner "'' 007> \"\"" = (Shell.sampleShell, 0) ∧
      ¬ Idle "4294967296>" ∧ ∃ l, CommandLine.parse? "4294967296>" = some l ∧ l.redirects = [] ∧
        ∀ c, l.command = some c → c.name ≠ [] := by
  have hidle : Idle "'' 007> \"\"" := (idle_lines _).1.1 (by decide +kernel)
  have hword : ¬ Idle "4294967296>" := by
    intro h
    have hnone := (idle_lines _).1.2 h
    exact absurd hnone (by decide +kernel)
  obtain ⟨l, hl, hname, -⟩ := (idle_lines _).2.2 hword
  have hredirects : (CommandLine.parse? "4294967296>").map (·.redirects) = some [] := by
    decide +kernel
  rw [hl] at hredirects
  exact ⟨hidle, (idle_lines _).2.1 hidle idleRunner _, hword, l, hl, Option.some.inj hredirects, hname⟩

end CommandShell
