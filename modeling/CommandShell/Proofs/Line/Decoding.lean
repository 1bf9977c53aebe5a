import CommandShell.Line.Command
import CommandShell.Proofs.Line.Extraction
import CommandShell.Proofs.Line.Spelling
/-! Every list of items can be asked for, and what is asked for is what is understood. -/
namespace CommandShell

variable {its : List Item} {line : Text}

/-- The name of the command and its arguments, if there is a command. -/
def CommandLine.words (l : CommandLine) : List Text :=
  match l.command with
  | none => []
  | some c => c.name :: c.arguments

theorem CommandLine.words_ofWords? (ws : List Text) (rs : Redirects) :
    words ⟨Command.ofWords? ws, rs⟩ = ws := by
  cases ws <;> rfl

/-- Nothing is left of items only if there are none. -/
theorem eq_nil_of_extracted (hw : words its = []) (hr : redirects its = []) : its = [] := by
  cases its with
  | nil => rfl
  | cons i its =>
    cases i with
    | word t => simp [words, Item.word?] at hw
    | redirect fd target =>
      have hnone : lastTarget? fd (.redirect fd target :: its) = none := by
        rw [← (redirects_spec _).2 fd, hr]
        rfl
      simp [lastTarget?, Item.target?] at hnone

/-- A line that spells items is understood as them: the words in their order, and for each
descriptor the target of its last redirection. It asks for nothing only if there are no items. -/
theorem parse?_spelled (hp : ∀ i ∈ its, i.Proper) (hs : Spelled (its.flatMap Item.tokens) line) :
    (CommandLine.parse? line = none ↔ its = []) ∧
      ∀ l, CommandLine.parse? line = some l →
        l.words = its.filterMap Item.word? ∧ l.redirects.Ascending ∧
          ∀ fd, l.redirects.target? fd = lastTarget? fd its := by
  have hx : extract (tokens line) = (words its, redirects its) := by
    rw [tokens_spelled hs, extract, items_tokens hp]
  obtain ⟨hasc, htargets⟩ := redirects_spec its
  simp only [CommandLine.parse?, hx]
  split
  · rename_i hnone
    obtain ⟨hw, hr⟩ : words its = [] ∧ redirects its = [] := by
      cases h : words its <;> simp_all [Command.ofWords?]
    simp [eq_nil_of_extracted hw hr]
  · rename_i hsome
    refine ⟨⟨fun h => by simp at h, ?_⟩, ?_⟩
    · rintro rfl
      simp [words, redirects, Command.ofWords?] at hsome
    · rintro l ⟨rfl⟩
      exact ⟨CommandLine.words_ofWords? _ _, hasc, htargets⟩

/-- Two targets look like operators, one word is a doubled sign, and a newline is quoted. -/
def sampleItems : List Item :=
  [.word "say it", .redirect 12 ">x\ny", .word ">>", .redirect 12 "2>"]

def sampleLine : Text := "say' it' 12>\t\">x\ny\"  \\>\\> 12> 2\\>\n"

theorem spelled_sampleLine : Spelled (sampleItems.flatMap Item.tokens) sampleLine := by
  have hn : Blank [] := by simp [Blank]
  have hb : Blank [' '] := by simp [Blank]; decide
  have operator : ∀ {b : Char} {ts : List Text} {rest : Text}, isBlank b = true → Spelled ts rest →
      Spelled ("12>".toList :: ts) ("12>".toList ++ b :: rest) :=
    .more [.bare '1' (by decide), .bare '2' (by decide), .bare '>' (by decide)] hn (by decide)
  refine .more [.bare 's' (by decide), .bare 'a' (by decide), .bare 'y' (by decide),
    .single " it" (by decide)] (b := ' ') hn (by decide) (by decide) ?_
  refine operator (b := '\t') (by decide) ?_
  refine .more [.double [.plain '>' (by decide), .plain 'x' (by decide), .plain '\n' (by decide),
    .plain 'y' (by decide)]] (b := ' ') hn (by decide) (by decide) ?_
  refine .more [.escaped '>', .escaped '>'] (b := ' ') hb (by decide) (by decide) ?_
  refine operator (b := ' ') (by decide) ?_
  exact .more [.bare '2' (by decide), .escaped '>'] (b := '\n') hn (by decide) (by decide)
    (.blank hn)

theorem parse?_sampleLine :
    (∀ i ∈ sampleItems, i.Proper) ∧ Spelled (sampleItems.flatMap Item.tokens) sampleLine ∧
      ∃ l, CommandLine.parse? sampleLine = some l ∧ l.words = ["say it".toList, ">>".toList] ∧
        l.redirects.target? 12 = some "2>" ∧ l.redirects.target? 1 = none := by
  have hp : ∀ i ∈ sampleItems, i.Proper := by decide
  obtain ⟨hnone, hsome⟩ := parse?_spelled hp spelled_sampleLine
  refine ⟨hp, spelled_sampleLine, ?_⟩
  cases h : CommandLine.parse? sampleLine with
  | none => cases hnone.1 h
  | some l =>
    obtain ⟨hw, -, ht⟩ := hsome l h
    exact ⟨l, rfl, hw, ht 12, ht 1⟩

end CommandShell
