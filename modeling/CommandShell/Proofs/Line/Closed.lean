import CommandShell.Proofs.Line.Region
import CommandShell.Proofs.Line.Spelling
/-! Where a line stops: with all closed that was opened, behind a backslash, or between quotes. Every
line stops in one of these ways, and the scanner knows in which. -/
namespace CommandShell

/-- What a line is made of. -/
inductive Part where
  | blank (c : Char) (h : isBlank c = true)
  | piece (p : Piece)

def Part.written : Part → Text
  | blank c _ => [c]
  | piece p => p.written

/-- All that is opened in the text is closed in it. -/
def Closed (t : Text) : Prop := ∃ ps : List Part, t = ps.flatMap Part.written

/-- How a line can stop: what is open at its end, and all that stands behind the opening. -/
inductive Stops : Mode → Text → Prop
  | plain {t : Text} (h : Closed t) : Stops .plain t
  | escaped {t : Text} (h : Closed t) : Stops .escaped (t ++ ['\\'])
  | single {t u : Text} (h : Closed t) (hu : '\'' ∉ u) : Stops .single (t ++ '\'' :: u)
  | double {t : Text} (h : Closed t) (is : List Inner) :
      Stops .double (t ++ '"' :: is.flatMap Inner.written)
  | doubleEscaped {t : Text} (h : Closed t) (is : List Inner) :
      Stops .doubleEscaped (t ++ '"' :: is.flatMap Inner.written ++ ['\\'])

variable {t u : Text} {m : Mode} {s : Scanner}

theorem closed_nil : Closed [] := ⟨[], rfl⟩

theorem Closed.part (h : Closed t) (p : Part) : Closed (t ++ p.written) := by
  obtain ⟨ps, rfl⟩ := h
  exact ⟨ps ++ [p], by simp⟩

theorem Stops.inner (h : Closed t) (is : List Inner) (i : Inner) :
    Stops .double (t ++ '"' :: is.flatMap Inner.written ++ i.written) := by
  have hd := Stops.double h (is ++ [i])
  simpa using hd

namespace Stops

theorem step_plain (h : Closed t) (hm : s.mode = .plain) (c : Char) :
    Stops (s.step c).mode (t ++ [c]) := by
  by_cases hb : isBlank c = true
  · have hmode : (s.step c).mode = .plain := by
      simp only [Scanner.step, hm, hb, if_true]
      rw [Scanner.endWord_eq, hm]
    rw [hmode]
    exact .plain (h.part (.blank c hb))
  · by_cases hq : c = '\''
    · subst hq
      simpa [Scanner.step, hm, hb] using Stops.single h List.not_mem_nil
    · by_cases hd : c = '"'
      · subst hd
        simpa [Scanner.step, hm, hb] using Stops.double h []
      · by_cases he : c = '\\'
        · subst he
          simpa [Scanner.step, hm, hb] using Stops.escaped h
        · have hbare := Stops.plain (h.part (.piece (.bare c ⟨by simpa using hb, hq, hd, he⟩)))
          simpa [Scanner.step, Scanner.push, hm, hb, hq, hd, he, Part.written, Piece.written]
            using hbare

theorem step_single (h : Closed t) (hu : '\'' ∉ u) (hm : s.mode = .single) (c : Char) :
    Stops (s.step c).mode (t ++ '\'' :: u ++ [c]) := by
  by_cases hq : c = '\''
  · subst hq
    have hclosed := Stops.plain (h.part (.piece (.single u hu)))
    simpa [Scanner.step, hm, Part.written, Piece.written] using hclosed
  · have hopen : Stops .single (t ++ '\'' :: (u ++ [c])) := .single h (by simp [hu, Ne.symm hq])
    simpa [Scanner.step, Scanner.push, hm, hq] using hopen

theorem step_double (h : Closed t) (is : List Inner) (hm : s.mode = .double) (c : Char) :
    Stops (s.step c).mode (t ++ '"' :: is.flatMap Inner.written ++ [c]) := by
  by_cases hd : c = '"'
  · subst hd
    have hclosed := Stops.plain (h.part (.piece (.double is)))
    simpa [Scanner.step, hm, Part.written, Piece.written] using hclosed
  · by_cases he : c = '\\'
    · subst he
      simpa [Scanner.step, hm] using Stops.doubleEscaped h is
    · have hplain := Stops.inner h is (.plain c ⟨hd, he⟩)
      simpa [Scanner.step, Scanner.push, hm, hd, he, Inner.written] using hplain

theorem step_doubleEscaped (h : Closed t) (is : List Inner) (hm : s.mode = .doubleEscaped)
    (c : Char) : Stops (s.step c).mode (t ++ '"' :: is.flatMap Inner.written ++ ['\\'] ++ [c]) := by
  by_cases hc : c = '"' ∨ c = '\\'
  · have hescaped := Stops.inner h is (.escaped c hc)
    simpa [Scanner.step, hm, hc, Inner.written] using hescaped
  · have hkept := Stops.inner h is (.kept c (not_or.1 hc))
    simpa [Scanner.step, hm, hc, Inner.written] using hkept

/-- One more character leads from one way to stop to another. -/
theorem step (h : Stops s.mode t) (c : Char) : Stops (s.step c).mode (t ++ [c]) := by
  generalize hm : s.mode = m at h
  cases h with
  | plain h => exact step_plain h hm c
  | escaped h =>
    have hclosed := Stops.plain (h.part (.piece (.escaped c)))
    simpa [Scanner.step, Scanner.push, hm, Part.written, Piece.written] using hclosed
  | single h hu => exact step_single h hu hm c
  | double h is => exact step_double h is hm c
  | doubleEscaped h is => exact step_doubleEscaped h is hm c

end Stops

/-- Behind what has been read, the scanner stands where the line stops. -/
theorem Stops.foldl (h : Stops s.mode t) (u : Text) :
    Stops (u.foldl Scanner.step s).mode (t ++ u) := by
  induction u generalizing s t with
  | nil => simpa using h
  | cons c u ih =>
    have hrest := ih (h.step c)
    simpa using hrest

theorem stops_scan (line : Text) : Stops (scan line).mode line := by
  have hstart : Stops ({} : Scanner).mode [] := .plain closed_nil
  exact hstart.foldl line

theorem Scanner.read_part (p : Part) (hm : s.mode = .plain) :
    (p.written.foldl step s).mode = .plain := by
  obtain ⟨mode, w, ws⟩ := s
  obtain rfl : mode = .plain := hm
  cases p with
  | blank c h =>
    simp only [Part.written, List.foldl_cons, List.foldl_nil, step, h, if_true]
    rw [endWord_eq]
  | piece p => rw [Part.written, read_piece]

theorem Scanner.read_parts (ps : List Part) (hm : s.mode = .plain) :
    ((ps.flatMap Part.written).foldl step s).mode = .plain := by
  induction ps generalizing s with
  | nil => exact hm
  | cons p ps ih =>
    rw [List.flatMap_cons, List.foldl_append]
    exact ih (read_part p hm)

/-- The scanner is outside quotes behind a closed text. -/
theorem Closed.scan_eq (h : Closed t) : ∃ w ws, scan t = ⟨.plain, w, ws⟩ := by
  obtain ⟨ps, rfl⟩ := h
  have hm : (scan (ps.flatMap Part.written)).mode = .plain := Scanner.read_parts ps rfl
  exact ⟨_, _, by rw [← hm]⟩

/-- Every line stops in one way only, and that is where the scanner stands. -/
theorem stops_iff (line : Text) : Stops m line ↔ (scan line).mode = m := by
  constructor
  · intro h
    cases h with
    | plain h =>
      obtain ⟨w, ws, hs⟩ := h.scan_eq
      rw [hs]
    | escaped h =>
      obtain ⟨w, ws, hs⟩ := h.scan_eq
      simp [scan_concat, hs, Scanner.step, isBlank_backslash]
    | single h hu =>
      obtain ⟨w, ws, hs⟩ := h.scan_eq
      rw [scan] at hs
      simp [scan, hs, Scanner.step, isBlank_quote, Scanner.read_literal hu]
    | double h is =>
      obtain ⟨w, ws, hs⟩ := h.scan_eq
      rw [scan] at hs
      simp [scan, hs, Scanner.step, isBlank_doubleQuote, Scanner.read_inners]
    | doubleEscaped h is =>
      obtain ⟨w, ws, hs⟩ := h.scan_eq
      rw [scan] at hs
      simp [scan, hs, Scanner.step, isBlank_doubleQuote, Scanner.read_inners]
  · rintro rfl
    exact stops_scan line

theorem closed_iff : Closed t ↔ (scan t).mode = .plain := by
  rw [← stops_iff]
  constructor
  · exact .plain
  · intro h
    cases h
    assumption

end CommandShell
