import CommandShell.Line.Token
/-! A line read region by region: a quoted stretch is taken at once, with all that is in it. The
scanner, which sees one character at a time, finds the same words. -/
namespace CommandShell

variable {c : Char} {rest : Text} {w : Text} {ws : List Text} {s : Scanner}

/-- The text up to the next single quote, and the line after it. A quote left open takes it all. -/
def singleRegion : Text → Text × Text
  | [] => ([], [])
  | c :: rest =>
    if c = '\'' then ([], rest) else (c :: (singleRegion rest).1, (singleRegion rest).2)

/-- The text up to the next double quote that no backslash escapes, and the line after it. Only a
double quote and a backslash can be escaped. -/
def doubleRegion : Text → Text × Text
  | [] => ([], [])
  | '"' :: rest => ([], rest)
  | '\\' :: '"' :: rest => ('"' :: (doubleRegion rest).1, (doubleRegion rest).2)
  | '\\' :: '\\' :: rest => ('\\' :: (doubleRegion rest).1, (doubleRegion rest).2)
  | c :: rest => (c :: (doubleRegion rest).1, (doubleRegion rest).2)

theorem singleRegion_length (rest : Text) : (singleRegion rest).2.length ≤ rest.length := by
  fun_induction singleRegion rest with
  | case1 => exact Nat.le_refl _
  | case2 rest => exact Nat.le_succ _
  | case3 c rest hc ih => exact Nat.le_succ_of_le ih

theorem doubleRegion_length (rest : Text) : (doubleRegion rest).2.length ≤ rest.length := by
  fun_induction doubleRegion rest with
  | case1 => exact Nat.le_refl _
  | case2 rest => exact Nat.le_succ _
  | case3 rest ih => exact Nat.le_succ_of_le (Nat.le_succ_of_le ih)
  | case4 rest ih => exact Nat.le_succ_of_le (Nat.le_succ_of_le ih)
  | case5 c rest hq hbq hbb ih => exact Nat.le_succ_of_le ih

/-- A finished word in front of the words after it, unless it is empty. -/
def emit (w : Text) (ws : List Text) : List Text := if w = [] then ws else w :: ws

/-- The words of what is left of a line when `w` is the part of a word read so far. -/
def regionWords (w : Text) : Text → List Text
  | [] => emit w []
  | c :: rest =>
    if isBlank c then emit w (regionWords [] rest)
    else if c = '\'' then regionWords (w ++ (singleRegion rest).1) (singleRegion rest).2
    else if c = '"' then regionWords (w ++ (doubleRegion rest).1) (doubleRegion rest).2
    else if c = '\\' then
      match rest with
      | [] => emit w []
      | next :: rest => regionWords (w ++ [next]) rest
    else regionWords (w ++ [c]) rest
termination_by line => line.length
decreasing_by
  all_goals have := singleRegion_length rest
  all_goals have := doubleRegion_length rest
  all_goals simp only [List.length_cons]
  all_goals omega

/-- The scanner after a line has been read. -/
def scan (line : Text) : Scanner := line.foldl Scanner.step {}

theorem scan_concat (line : Text) (c : Char) : scan (line ++ [c]) = (scan line).step c := by
  simp [scan]

namespace Scanner

theorem finish_eq (h : s.mode ≠ .doubleEscaped) :
    s.finish = s.words.reverse ++ emit s.word.reverse [] := by
  by_cases hw : s.word = [] <;> simp [finish, endWord, emit, h, hw]

theorem endWord_words : s.endWord.words.reverse = s.words.reverse ++ emit s.word.reverse [] := by
  by_cases hw : s.word = [] <;> simp [endWord, emit, hw]

theorem endWord_eq : s.endWord = ⟨s.mode, [], s.endWord.words⟩ := by
  obtain ⟨mode, _ | ⟨c, w⟩, ws⟩ := s <;> rfl

/-- Between double quotes a backslash before any other character is a character like it. -/
theorem step_kept (h : c ≠ '"' ∧ c ≠ '\\') :
    step ⟨.doubleEscaped, w, ws⟩ c = step ⟨.double, '\\' :: w, ws⟩ c := by
  simp [step, push, h]

/-- A scan between single quotes goes on as if the whole region were letters outside quotes. -/
theorem finish_single (rest w : Text) (ws : List Text) :
    (rest.foldl step ⟨.single, w, ws⟩).finish =
      ((singleRegion rest).2.foldl step ⟨.plain, (singleRegion rest).1.reverse ++ w, ws⟩).finish := by
  induction rest generalizing w with
  | nil => simp [singleRegion, finish_eq]
  | cons c rest ih =>
    by_cases hc : c = '\''
    · simp [singleRegion, step, hc]
    · simp [singleRegion, step, push, hc, ih]

theorem finish_double (rest w : Text) (ws : List Text) :
    (rest.foldl step ⟨.double, w, ws⟩).finish =
      ((doubleRegion rest).2.foldl step ⟨.plain, (doubleRegion rest).1.reverse ++ w, ws⟩).finish := by
  fun_induction doubleRegion rest generalizing w with
  | case1 => simp [finish_eq]
  | case2 rest => simp [step]
  | case3 rest ih => simp [step, push, ih]
  | case4 rest ih => simp [step, push, ih]
  | case5 c rest hq hbq hbb ih =>
    have hw : (rest.foldl step ⟨.double, c :: w, ws⟩).finish =
        ((doubleRegion rest).2.foldl step
          ⟨.plain, (c :: (doubleRegion rest).1).reverse ++ w, ws⟩).finish := by simp [ih]
    rw [← hw]
    by_cases hc : c = '\\'
    · subst hc
      cases rest with
      | nil => simp [step, finish, push, endWord]
      | cons d rest =>
        have hd : d ≠ '"' ∧ d ≠ '\\' :=
          ⟨fun h => hbq rest rfl (by rw [h]), fun h => hbb rest rfl (by rw [h])⟩
        simp only [List.foldl_cons, ← step_kept hd]
        rfl
    · have : c ≠ '"' := fun h => hq h
      simp [step, push, hc, this]

end Scanner

theorem emit_append (w : Text) (ws : List Text) : emit w [] ++ ws = emit w ws := by
  by_cases hw : w = [] <;> simp [emit, hw]

/-- The scanner and the reading by regions agree from wherever both stand outside quotes. -/
theorem finish_eq_regionWords (w line : Text) (ws : List Text) :
    (line.foldl Scanner.step ⟨.plain, w.reverse, ws⟩).finish =
      ws.reverse ++ regionWords w line := by
  fun_induction regionWords w line generalizing ws with
  | case1 w => simp [Scanner.finish_eq]
  | case2 w c rest hb ih =>
    have hs : Scanner.step ⟨.plain, w.reverse, ws⟩ c =
        ⟨.plain, [], (Scanner.endWord ⟨.plain, w.reverse, ws⟩).words⟩ := by
      simp only [Scanner.step, hb, if_true]
      exact Scanner.endWord_eq
    have hi := ih (Scanner.endWord ⟨.plain, w.reverse, ws⟩).words
    rw [List.reverse_nil, Scanner.endWord_words] at hi
    rw [List.foldl_cons, hs, hi]
    simp [emit_append]
  | case3 w rest hb ih =>
    have hi := ih ws
    simp only [List.reverse_append] at hi
    simp [Scanner.step, isBlank_quote, Scanner.finish_single, hi]
  | case4 w rest hb hq ih =>
    have hi := ih ws
    simp only [List.reverse_append] at hi
    simp [Scanner.step, isBlank_doubleQuote, Scanner.finish_double, hi]
  | case5 w hb hq hd =>
    simp [Scanner.step, isBlank_backslash, Scanner.finish_eq]
  | case6 w hb hq hd next rest ih =>
    have hi := ih ws
    simp only [List.reverse_append, List.reverse_singleton, List.singleton_append] at hi
    simp [Scanner.step, Scanner.push, isBlank_backslash, hi]
  | case7 w c rest hb hq hd hs ih =>
    have hi := ih ws
    simp only [List.reverse_append, List.reverse_singleton, List.singleton_append] at hi
    simp [Scanner.step, Scanner.push, hb, hq, hd, hs, hi]

/-- Only an unquoted blank completes a word, so nothing quoted and no quote does. -/
theorem words_step (s : Scanner) (c : Char) :
    (s.step c).words = s.words ∨ (isBlank c = true ∧ s.mode = .plain) := by
  by_cases h : isBlank c = true ∧ s.mode = .plain
  · exact Or.inr h
  · left
    cases hm : s.mode with
    | plain =>
      have hb : ¬ isBlank c = true := fun hb => h ⟨hb, hm⟩
      simp only [Scanner.step, hm, hb]
      grind [Scanner.push]
    | escaped => simp [Scanner.step, Scanner.push, hm]
    | single => grind [Scanner.step, Scanner.push]
    | double => grind [Scanner.step, Scanner.push]
    | doubleEscaped => grind [Scanner.step, Scanner.push]

theorem nil_notMem_emit (h : [] ∉ ws) : [] ∉ emit w ws := by
  by_cases hw : w = [] <;> simp [emit, hw, h, Ne.symm]

theorem nil_notMem_regionWords (w line : Text) : [] ∉ regionWords w line := by
  fun_induction regionWords w line <;> simp_all [nil_notMem_emit]

/-- The words of a line are those of its regions, none is empty, and a quote ends no word. -/
theorem tokens_by_regions (line : Text) :
    tokens line = regionWords [] line ∧ [] ∉ tokens line ∧
      ∀ (before : Text) (c : Char), (scan (before ++ [c])).words = (scan before).words ∨
        (isBlank c = true ∧ (scan before).mode = .plain) := by
  have h : tokens line = regionWords [] line := finish_eq_regionWords [] line []
  refine ⟨h, ?_, ?_⟩
  · rw [h]
    exact nil_notMem_regionWords [] line
  · intro before c
    rw [scan_concat]
    exact words_step (scan before) c

end CommandShell
