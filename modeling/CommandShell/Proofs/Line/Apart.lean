import CommandShell.Proofs.Line.Closed
/-! Lines in two parts. The words that are complete in the first part stay as they are, and at a blank
a line falls into two that are split each by itself exactly if all before the blank is closed. -/
namespace CommandShell

variable {c : Char} {t : Text} {s : Scanner}

namespace Scanner

/-- The scanner with words that were complete before all of its own. -/
def behind (s : Scanner) (ws : List Text) : Scanner := { s with words := s.words ++ ws }

theorem endWord_behind (s : Scanner) (ws : List Text) :
    (s.behind ws).endWord = s.endWord.behind ws := by
  by_cases hw : s.word = [] <;> simp [endWord, behind, hw]

theorem step_behind (s : Scanner) (ws : List Text) (c : Char) :
    (s.behind ws).step c = (s.step c).behind ws := by
  have hend := endWord_behind s ws
  cases hm : s.mode with
  | plain =>
    have hm' : (s.behind ws).mode = .plain := hm
    simp only [step, hm, hm']
    split
    · exact hend
    · repeat' split
      all_goals rfl
  | escaped => simp [step, behind, push, hm]
  | single => by_cases hq : c = '\'' <;> simp [step, behind, push, hm, hq]
  | double =>
    by_cases hd : c = '"'
    · simp [step, behind, hm, hd]
    · by_cases he : c = '\\' <;> simp [step, behind, push, hm, hd, he]
  | doubleEscaped =>
    by_cases hc : c = '"' ∨ c = '\\' <;> simp [step, behind, push, hm, hc]

theorem foldl_behind (s : Scanner) (ws : List Text) (t : Text) :
    t.foldl step (s.behind ws) = (t.foldl step s).behind ws := by
  induction t generalizing s with
  | nil => rfl
  | cons c t ih => rw [List.foldl_cons, step_behind, ih, List.foldl_cons]

theorem finish_behind (s : Scanner) (ws : List Text) :
    (s.behind ws).finish = ws.reverse ++ s.finish := by
  have hend : ∀ s : Scanner, (s.behind ws).endWord.words.reverse =
      ws.reverse ++ s.endWord.words.reverse := by
    intro s
    rw [endWord_behind, behind, List.reverse_append]
  unfold finish
  by_cases hm : s.mode = .doubleEscaped
  · have hm' : (s.behind ws).mode = .doubleEscaped := hm
    simp only [hm, hm', if_true]
    exact hend (s.push '\\')
  · have hm' : ¬ (s.behind ws).mode = .doubleEscaped := hm
    simp only [hm, hm', if_false]
    exact hend s

/-- The letters read so far, without the gaps between the words. -/
def letters (s : Scanner) : Text := s.words.reverse.flatten ++ s.word.reverse

theorem letters_push (s : Scanner) (c : Char) : (s.push c).letters = s.letters ++ [c] := by
  simp [letters, push]

theorem flatten_emit (w : Text) : (emit w []).flatten = w := by
  by_cases hw : w = [] <;> simp [emit, hw]

theorem flatten_finish (s : Scanner) :
    s.finish.flatten = s.letters ++ if s.mode = .doubleEscaped then ['\\'] else [] := by
  have hend : ∀ s : Scanner, s.endWord.words.reverse.flatten = s.letters := by
    intro s
    rw [endWord_words, List.flatten_append, flatten_emit, letters]
  unfold finish
  by_cases hm : s.mode = .doubleEscaped
  · simp only [hm, if_true]
    rw [hend, letters_push]
  · simp only [hm, if_false]
    rw [hend, List.append_nil]

/-- A blank that is quoted or escaped is a letter. -/
theorem flatten_step (hc : isBlank c = true) (hm : s.mode ≠ .plain) :
    (s.step c).finish.flatten = s.finish.flatten ++ [c] := by
  have hq : c ≠ '\'' := by
    rintro rfl
    simp [isBlank_quote] at hc
  have hd : c ≠ '"' := by
    rintro rfl
    simp [isBlank_doubleQuote] at hc
  have he : c ≠ '\\' := by
    rintro rfl
    simp [isBlank_backslash] at hc
  rw [flatten_finish, flatten_finish]
  cases hs : s.mode with
  | plain => exact absurd hs hm
  | escaped => simp [step, hs, push, letters]
  | single => simp [step, hs, hq, push, letters]
  | double => simp [step, hs, hd, he, push, letters]
  | doubleEscaped => simp [step, hs, hd, he, push, letters]

end Scanner

/-- Whatever follows, the words that are complete at some point of a line stay as they are. -/
theorem tokens_append (t u : Text) :
    tokens (t ++ u) = (scan t).words.reverse ++
      (u.foldl Scanner.step { scan t with words := [] }).finish := by
  have hscan : scan t = ({ scan t with words := [] } : Scanner).behind (scan t).words := rfl
  rw [← Scanner.finish_behind, ← Scanner.foldl_behind, ← hscan, tokens, List.foldl_append, scan]

/-- A blank outside quotes completes all words before it. -/
theorem scan_blank (hc : isBlank c = true) (hm : (scan t).mode = .plain) :
    scan (t ++ [c]) = ⟨.plain, [], (tokens t).reverse⟩ := by
  have hstep : (scan t).step c = (scan t).endWord := by
    rw [Scanner.step, hm]
    simp [hc]
  have htokens : tokens t = (scan t).endWord.words.reverse := by
    change (scan t).finish = _
    rw [Scanner.finish, hm]
    rfl
  rw [scan_concat, hstep, Scanner.endWord_eq, hm, htokens, List.reverse_reverse]

theorem tokens_closed_blank (hc : isBlank c = true) (hm : (scan t).mode = .plain) (u : Text) :
    tokens (t ++ c :: u) = tokens t ++ tokens u := by
  have happ : t ++ c :: u = t ++ [c] ++ u := by simp
  rw [happ, tokens_append, scan_blank hc hm, List.reverse_reverse]
  rfl

/-- A line falls into two at a blank exactly if all before the blank is closed, and that is where
the scanner is outside quotes. Whatever follows, closed or not, the words that are complete stay. -/
theorem tokens_apart (before : Text) (hc : isBlank c = true) :
    (Closed before ↔ (scan before).mode = .plain) ∧
      ((scan before).mode = .plain ↔
        ∀ rest, tokens (before ++ c :: rest) = tokens before ++ tokens rest) ∧
      (∀ rest, (scan before).words.reverse <+: tokens (before ++ rest)) ∧
      ((scan before).mode = .plain → (scan (before ++ [c])).words.reverse = tokens before) := by
  refine ⟨closed_iff, ⟨fun hm => tokens_closed_blank hc hm, ?_⟩, ?_, ?_⟩
  · intro hsplit
    by_cases hm : (scan before).mode = .plain
    · exact hm
    · have hlast := Scanner.flatten_step hc hm
      rw [← scan_concat] at hlast
      have hsame : (scan (before ++ [c])).finish = (scan before).finish :=
        (hsplit []).trans (List.append_nil _)
      rw [hsame] at hlast
      simp at hlast
  · intro rest
    rw [tokens_append]
    exact List.prefix_append _ _
  · intro hm
    rw [scan_blank hc hm, List.reverse_reverse]

/-- All three ways to quote are closed, the blank is a wide one, and what follows stays open. -/
theorem tokens_apart_sample :
    isBlank '\u3000' = true ∧ (scan "say 'a b'\\ \"\\\"\"".toList).mode = .plain ∧
      tokens "say 'a b'\\ \"\\\"\"\u3000'left o\"pen\\".toList =
        tokens "say 'a b'\\ \"\\\"\"".toList ++ tokens "'left o\"pen\\".toList ∧
      tokens "say 'a b'\\ \"\\\"\"".toList = ["say".toList, "a b \"".toList] := by
  have hc : isBlank '\u3000' = true := by decide
  have hm : (scan "say 'a b'\\ \"\\\"\"".toList).mode = .plain := by decide
  exact ⟨hc, hm, (tokens_apart _ hc).2.1.1 hm _, by decide⟩

end CommandShell
