import CommandShell.Line.Token
/-! The ways to write words in a line. Splitting the line gives the words back, however each of them
is quoted. -/
namespace CommandShell

variable {c : Char} {t w : Text} {ts ws : List Text} {line : Text}

/-- What stands between double quotes: a character, an escaped one, or a backslash that escapes
nothing and the character after it. -/
inductive Inner where
  | plain (c : Char) (h : c ≠ '"' ∧ c ≠ '\\')
  | escaped (c : Char) (h : c = '"' ∨ c = '\\')
  | kept (c : Char) (h : c ≠ '"' ∧ c ≠ '\\')

/-- A piece of a word as it is written. -/
inductive Piece where
  | bare (c : Char) (h : isBlank c = false ∧ c ≠ '\'' ∧ c ≠ '"' ∧ c ≠ '\\')
  | escaped (c : Char)
  | single (t : Text) (h : '\'' ∉ t)
  | double (is : List Inner)

namespace Inner

def written : Inner → Text
  | plain c _ => [c]
  | escaped c _ => ['\\', c]
  | kept c _ => ['\\', c]

def text : Inner → Text
  | plain c _ => [c]
  | escaped c _ => [c]
  | kept c _ => ['\\', c]

end Inner

namespace Piece

def written : Piece → Text
  | bare c _ => [c]
  | escaped c => ['\\', c]
  | single t _ => '\'' :: t ++ ['\'']
  | double is => '"' :: is.flatMap Inner.written ++ ['"']

/-- What the piece adds to its word. -/
def text : Piece → Text
  | bare c _ => [c]
  | escaped c => [c]
  | single t _ => t
  | double is => is.flatMap Inner.text

end Piece

/-- A text of blanks only. -/
def Blank (t : Text) : Prop := ∀ c ∈ t, isBlank c = true

/-- Words in a line: each in pieces that add up to it, with blanks between neighbours and perhaps
before the first and after the last. -/
inductive Spelled : List Text → Text → Prop
  | blank {gap : Text} (hg : Blank gap) : Spelled [] gap
  | last {gap : Text} (ps : List Piece) (hg : Blank gap) (hw : ps.flatMap Piece.text ≠ []) :
      Spelled [ps.flatMap Piece.text] (gap ++ ps.flatMap Piece.written)
  | more {gap : Text} (ps : List Piece) {b : Char} {ts : List Text} {rest : Text} (hg : Blank gap)
      (hw : ps.flatMap Piece.text ≠ []) (hb : isBlank b = true) (hs : Spelled ts rest) :
      Spelled (ps.flatMap Piece.text :: ts) (gap ++ ps.flatMap Piece.written ++ b :: rest)

namespace Scanner

theorem read_blank (h : Blank t) : t.foldl step ⟨.plain, [], ws⟩ = ⟨.plain, [], ws⟩ := by
  induction t with
  | nil => rfl
  | cons c t ih =>
    have hc : isBlank c = true := h c (List.mem_cons_self ..)
    have ht : Blank t := fun d hd => h d (List.mem_cons_of_mem c hd)
    simpa [step, endWord, hc] using ih ht

theorem read_literal (h : '\'' ∉ t) :
    t.foldl step ⟨.single, w, ws⟩ = ⟨.single, t.reverse ++ w, ws⟩ := by
  induction t generalizing w with
  | nil => rfl
  | cons c t ih =>
    obtain ⟨hc, ht⟩ : '\'' ≠ c ∧ '\'' ∉ t := by simpa using h
    simp [step, push, Ne.symm hc, ih ht]

theorem read_inner (i : Inner) :
    i.written.foldl step ⟨.double, w, ws⟩ = ⟨.double, i.text.reverse ++ w, ws⟩ := by
  cases i with
  | plain c h => simp [Inner.written, Inner.text, step, push, h]
  | escaped c h => simp [Inner.written, Inner.text, step, push, h]
  | kept c h => simp [Inner.written, Inner.text, step, push, h]

theorem read_inners (is : List Inner) :
    (is.flatMap Inner.written).foldl step ⟨.double, w, ws⟩ =
      ⟨.double, (is.flatMap Inner.text).reverse ++ w, ws⟩ := by
  induction is generalizing w with
  | nil => rfl
  | cons i is ih => simp [read_inner, ih]

theorem read_piece (p : Piece) :
    p.written.foldl step ⟨.plain, w, ws⟩ = ⟨.plain, p.text.reverse ++ w, ws⟩ := by
  cases p with
  | bare c h => simp [Piece.written, Piece.text, step, push, h]
  | escaped c => simp [Piece.written, Piece.text, step, push, isBlank_backslash]
  | single t h => simp [Piece.written, Piece.text, step, isBlank_quote, read_literal h]
  | double is => simp [Piece.written, Piece.text, step, isBlank_doubleQuote, read_inners]

theorem read_pieces (ps : List Piece) :
    (ps.flatMap Piece.written).foldl step ⟨.plain, w, ws⟩ =
      ⟨.plain, (ps.flatMap Piece.text).reverse ++ w, ws⟩ := by
  induction ps generalizing w with
  | nil => rfl
  | cons p ps ih => simp [read_piece, ih]

theorem finish_spelled (h : Spelled ts line) :
    (line.foldl step ⟨.plain, [], ws⟩).finish = ws.reverse ++ ts := by
  induction h generalizing ws with
  | blank hg => simp [read_blank hg, finish, endWord]
  | last ps hg hw => simp [read_blank hg, read_pieces, finish, endWord, hw]
  | more ps hg hw hb hs ih =>
    have hstep : ∀ w : Text, w ≠ [] → ∀ b, isBlank b = true →
        step ⟨.plain, w.reverse, ws⟩ b = ⟨.plain, [], w :: ws⟩ := by
      intro w hw b hb
      simp [step, endWord, hb, hw]
    rw [List.foldl_append, List.foldl_append, read_blank hg, read_pieces, List.append_nil,
      List.foldl_cons, hstep _ hw _ hb, ih]
    simp

end Scanner

/-- Splitting undoes every spelling. -/
theorem tokens_spelled (h : Spelled ts line) : tokens line = ts :=
  Scanner.finish_spelled h

end CommandShell
