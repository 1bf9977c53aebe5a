import CommandShell.Proofs.Line.Region
import CommandShell.Proofs.Line.Spelling
/-! Words written in any style. Splitting the line gives them back, so the words of a line are also
those of every line in which they are written again. -/
namespace CommandShell

variable {t : Text} {ts : List Text}

/-- A way to write every text in pieces. -/
structure Style where
  pieces : Text → List Piece
  text_pieces : ∀ t, (pieces t).flatMap Piece.text = t

/-- Between double quotes a character stands as it is, unless it has to be escaped. -/
def Inner.ofChar (c : Char) : Inner :=
  if h : c = '"' ∨ c = '\\' then .escaped c h else .plain c (not_or.1 h)

/-- Outside quotes too. -/
def Piece.ofChar (c : Char) : Piece :=
  if h : isBlank c = false ∧ c ≠ '\'' ∧ c ≠ '"' ∧ c ≠ '\\' then .bare c h else .escaped c

/-- A character between single quotes, where only they cannot stand. -/
def Piece.quoteChar (c : Char) : Piece :=
  if h : c = '\'' then .escaped c else .single [c] (by simpa using Ne.symm h)

theorem Inner.text_ofChar (c : Char) : (ofChar c).text = [c] := by
  unfold ofChar
  split <;> rfl

theorem Piece.text_ofChar (c : Char) : (ofChar c).text = [c] := by
  unfold ofChar
  split <;> rfl

theorem Piece.text_quoteChar (c : Char) : (quoteChar c).text = [c] := by
  unfold quoteChar
  split <;> rfl

namespace Style

/-- Each character by itself. -/
def byChar (piece : Char → Piece) (h : ∀ c, (piece c).text = [c]) : Style where
  pieces t := t.map piece
  text_pieces t := by
    induction t with
    | nil => rfl
    | cons c t ih => rw [List.map_cons, List.flatMap_cons, h, ih, List.singleton_append]

def bare : Style := byChar .ofChar Piece.text_ofChar

def singleQuoted : Style := byChar .quoteChar Piece.text_quoteChar

def doubleQuoted : Style where
  pieces t := [.double (t.map .ofChar)]
  text_pieces t := by
    induction t with
    | nil => rfl
    | cons c t ih =>
      simp only [List.flatMap_singleton, Piece.text] at ih ⊢
      rw [List.map_cons, List.flatMap_cons, Inner.text_ofChar, ih, List.singleton_append]

variable (style : Style)

def word (t : Text) : Text := (style.pieces t).flatMap Piece.written

/-- The words in a line, with one space between neighbours. -/
def write (ts : List Text) : Text := Text.join [' '] (ts.map style.word)

theorem spelled_word (ht : t ≠ []) : Spelled [t] (style.word t) := by
  have hgap : Blank [] := by simp [Blank]
  have hw : (style.pieces t).flatMap Piece.text ≠ [] := by
    rw [style.text_pieces]
    exact ht
  have h := Spelled.last (style.pieces t) hgap hw
  rwa [style.text_pieces] at h

theorem spelled_word_cons {rest : Text} (ht : t ≠ []) (h : Spelled ts rest) :
    Spelled (t :: ts) (style.word t ++ ' ' :: rest) := by
  have hgap : Blank [] := by simp [Blank]
  have hw : (style.pieces t).flatMap Piece.text ≠ [] := by
    rw [style.text_pieces]
    exact ht
  have hs : isBlank ' ' = true := by decide
  have hmore := Spelled.more (style.pieces t) hgap hw hs h
  rwa [style.text_pieces] at hmore

/-- All words but the empty one can be written in every style. -/
theorem spelled_write (h : [] ∉ ts) : Spelled ts (style.write ts) := by
  induction ts with
  | nil =>
    have hgap : Blank [] := by simp [Blank]
    exact .blank hgap
  | cons t ts ih =>
    obtain ⟨ht, hts⟩ : [] ≠ t ∧ [] ∉ ts := by simpa using h
    cases ts with
    | nil =>
      rw [write, List.map_singleton, Text.join, List.intercalate_singleton]
      exact style.spelled_word (Ne.symm ht)
    | cons u ts =>
      have hrest := style.spelled_word_cons (Ne.symm ht) (ih hts)
      rw [write, List.map_cons, List.map_cons, Text.join, List.intercalate_cons_cons,
        List.append_assoc]
      exact hrest

end Style

theorem nil_notMem_tokens (line : Text) : [] ∉ tokens line := by
  have h : tokens line = regionWords [] line := finish_eq_regionWords [] line []
  rw [h]
  exact nil_notMem_regionWords [] line

theorem nil_notMem_of_spelled {line : Text} (h : Spelled ts line) : [] ∉ ts := by
  rw [← tokens_spelled h]
  exact nil_notMem_tokens line

/-- However words are written in a line, splitting gives back these words. They can be written in
every style as long as none is empty, so the words of a line can, and then they are the same again. -/
theorem tokens_respelled :
    (∀ ts line, Spelled ts line → tokens line = ts) ∧
      (∀ ts (style : Style), Spelled ts (style.write ts) ↔ [] ∉ ts) ∧
      (∀ line line', Spelled (tokens line) line' → tokens line' = tokens line) ∧
      ∀ line (style : Style), Spelled (tokens line) (style.write (tokens line)) ∧
        tokens (style.write (tokens line)) = tokens line := by
  refine ⟨fun ts line h => tokens_spelled h, ?_, ?_, ?_⟩
  · intro ts style
    exact ⟨nil_notMem_of_spelled, style.spelled_write⟩
  · intro line line' h
    exact tokens_spelled h
  · intro line style
    have h := style.spelled_write (nil_notMem_tokens line)
    exact ⟨h, tokens_spelled h⟩

def hardWords : List Text := ["it's", "> \n\\\"\x00"]

/-- All three ways to quote, an empty quote, and blanks of several kinds. -/
def hardLine : Text := Text.join [] ["it\\'s\t", "'> \n\\'", "\"\\\"\x00\"", "''\u3000"]

theorem spelled_hardLine : Spelled hardWords hardLine := by
  have hn : Blank [] := by simp [Blank]
  refine .more [.bare 'i' (by decide), .bare 't' (by decide), .escaped '\'', .bare 's' (by decide)]
    (b := '\t') hn (by decide) (by decide) ?_
  exact .more [.single "> \n\\" (by decide),
    .double [.escaped '"' (by decide), .plain '\x00' (by decide)], .single [] (by decide)]
    (b := '\u3000') hn (by decide) (by decide) (.blank hn)

theorem tokens_respelled_hard :
    Spelled hardWords hardLine ∧ tokens hardLine = hardWords ∧
      (∀ style ∈ [Style.bare, .singleQuoted, .doubleQuoted],
        tokens (style.write hardWords) = hardWords) ∧
      Style.bare.write hardWords = "it\\'s >\\ \\\n\\\\\\\"\x00".toList ∧
      Style.singleQuoted.write hardWords = "'i''t'\\''s' '>'' ''\n''\\''\"''\x00'".toList ∧
      Style.doubleQuoted.write hardWords = "\"it's\" \"> \n\\\\\\\"\x00\"".toList := by
  obtain ⟨hread, -, hagain, hstyle⟩ := tokens_respelled
  have htokens : tokens hardLine = hardWords := hread hardWords hardLine spelled_hardLine
  refine ⟨spelled_hardLine, htokens, ?_, by decide, by decide, by decide⟩
  intro style _
  have hwritten := hagain hardLine _ (hstyle hardLine style).1
  rwa [htokens] at hwritten

end CommandShell
