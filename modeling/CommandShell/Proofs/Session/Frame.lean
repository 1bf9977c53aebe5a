import CommandShell.Proofs.Session.Turn
/-! What lines leave of a session as it was. Those that fail leave all of it. -/
namespace CommandShell.Shell

variable {run : Runner} {sh sh' : Shell} {line : Text} {lines : List Text}

/-- The line runs the command that ends the session. -/
def AsksToExit (line : Text) (sh : Shell) : Prop :=
  ∃ l c, Commands line sh l c ∧ c.name = Builtin.exit.name

/-- The line runs `cd` with an argument, and one path is where the session and its process are
afterwards. -/
def Goes (line : Text) (sh sh' : Shell) : Prop :=
  ∃ l c arg rest path, Commands line sh l c ∧ c.name = Builtin.cd.name ∧ c.arguments = arg :: rest ∧
    target? sh.session arg = some path ∧ sh'.session.currentDir = Path.normalize path ∧
    (sh.targets l).1.disk.enter sh.world.cwd (Path.normalize path) = .ok sh'.world.cwd

/-- The session and its process are in the directories they were in. -/
def Stands (sh sh' : Shell) : Prop :=
  sh'.session.currentDir = sh.session.currentDir ∧ sh'.world.cwd = sh.world.cwd

/-- What a line leaves as it was when it ends with a status. -/
structure Framed (line : Text) (sh : Shell) (r : Shell × Int) : Prop where
  vars : r.1.session.vars = sh.session.vars
  exiting : r.1.session.exiting = true ↔ sh.session.exiting = true ∨ AsksToExit line sh
  directory : sh.Stands r.1 ∨ Goes line sh r.1
  failed : r.2 ≠ 0 → r.1.session = sh.session ∧ r.1.world.cwd = sh.world.cwd

/-- What lines leave as it was: each change is that of one of them. -/
structure FramedAll (run : Runner) (lines : List Text) (sh : Shell) : Prop where
  vars : (executeLines run lines sh).session.vars = sh.session.vars
  exiting : (executeLines run lines sh).session.exiting = true ↔
    sh.session.exiting = true ∨
      ∃ before line after, lines = before ++ line :: after ∧
        AsksToExit line (executeLines run before sh)
  directory : sh.Stands (executeLines run lines sh) ∨
    ∃ before line after, lines = before ++ line :: after ∧
      Goes line (executeLines run before sh) (executeLines run (before ++ [line]) sh) ∧
      (executeLines run (before ++ [line]) sh).Stands (executeLines run lines sh)
  failed : (∀ before line after, lines = before ++ line :: after →
      ((executeLines run before sh).execute run line).2 ≠ 0) →
    (executeLines run lines sh).session = sh.session ∧
      (executeLines run lines sh).world.cwd = sh.world.cwd

theorem exiting_of_asksToExit (run : Runner) (h : AsksToExit line sh) :
    (sh.execute run line).1.session.exiting = true := by
  obtain ⟨l, c, hc, hn⟩ := h
  obtain ⟨o, he⟩ := execute_of_builtin run hc hn
  have hf := follows_executeBuiltin .exit c o { sh with world := (sh.targets l).1 }
  rw [he, hf.session]
  rfl

theorem framed_execute (run : Runner) (line : Text) (sh : Shell) :
    Framed line sh (sh.execute run line) := by
  have hasks : AsksToExit line sh → (sh.execute run line).1.session.exiting = true :=
    exiting_of_asksToExit run
  have hturn := execute_turn run line sh
  generalize sh.execute run line = r at hturn hasks ⊢
  cases hturn with
  | still h =>
    refine ⟨?_, ⟨?_, ?_⟩, Or.inl ⟨?_, h.cwd⟩, fun _ => ⟨h.session, h.cwd⟩⟩
    · rw [h.session]
    · rw [h.session]
      exact Or.inl
    · rintro (he | he)
      · rw [h.session]
        exact he
      · exact hasks he
    · rw [h.session]
  | exit h hn hs hw hr =>
    refine ⟨?_, ⟨fun _ => Or.inr ⟨_, _, h, hn⟩, fun _ => ?_⟩, Or.inl ⟨?_, hw⟩, ?_⟩
    · rw [hs]
    · rw [hs]
    · rw [hs]
    · intro hne
      exact absurd hr hne
  | enter h hn ha he hs hd hr =>
    obtain ⟨t, ht, rfl, he⟩ := he
    refine ⟨?_, ⟨?_, ?_⟩, Or.inr ⟨_, _, _, _, _, h, hn, ha, ht, ?_, he.entered⟩, ?_⟩
    · rw [hs]
    · rw [hs]
      exact Or.inl
    · rintro (hexit | hexit)
      · rw [hs]
        exact hexit
      · exact hasks hexit
    · rw [hs]
    · intro hne
      exact absurd hr hne

theorem framedAll_nil (run : Runner) (sh : Shell) : FramedAll run [] sh := by
  refine ⟨rfl, ⟨Or.inl, ?_⟩, Or.inl ⟨rfl, rfl⟩, fun _ => ⟨rfl, rfl⟩⟩
  rintro (h | ⟨before, line, after, he, -⟩)
  · exact h
  · simp at he

/-- A line ahead of others: what it changes is changed by it, and the rest by them. -/
theorem framedAll_cons (h : Framed line sh (sh.execute run line))
    (hs : FramedAll run lines (sh.execute run line).1) : FramedAll run (line :: lines) sh := by
  refine ⟨hs.vars.trans h.vars, ?_, ?_, fun hfail => ?_⟩
  · rw [executeLines_cons, hs.exiting, h.exiting]
    constructor
    · rintro ((he | he) | ⟨before, asked, after, rfl, ha⟩)
      · exact Or.inl he
      · exact Or.inr ⟨[], line, lines, rfl, he⟩
      · exact Or.inr ⟨line :: before, asked, after, rfl, ha⟩
    · rintro (he | ⟨before, asked, after, he, ha⟩)
      · exact Or.inl (Or.inl he)
      · cases before with
        | nil =>
          obtain ⟨rfl, rfl⟩ := List.cons_eq_cons.1 he
          exact Or.inl (Or.inr ha)
        | cons first before =>
          obtain ⟨rfl, rfl⟩ := List.cons_eq_cons.1 he
          exact Or.inr ⟨before, asked, after, rfl, ha⟩
  · rcases hs.directory with hstands | ⟨before, went, after, rfl, hgoes, hstands⟩
    · rcases h.directory with hline | hline
      · exact Or.inl ⟨hstands.1.trans hline.1, hstands.2.trans hline.2⟩
      · exact Or.inr ⟨[], line, lines, rfl, hline, hstands⟩
    · exact Or.inr ⟨line :: before, went, after, rfl, hgoes, hstands⟩
  · obtain ⟨hsession, hcwd⟩ := h.failed (hfail [] line lines rfl)
    have hrest := hs.failed fun before failing after he => by
      rw [he] at hfail
      exact hfail (line :: before) failing after rfl
    exact ⟨hrest.1.trans hsession, hrest.2.trans hcwd⟩

theorem framedAll_executeLines (run : Runner) (lines : List Text) (sh : Shell) :
    FramedAll run lines sh := by
  induction lines generalizing sh with
  | nil => exact framedAll_nil run sh
  | cons line lines ih => exact framedAll_cons (framed_execute run line sh) (ih _)

/-- Whatever fails in it, a line leaves the variables alone, ends the session only when it says so,
and moves the session only together with its process; without success it changes nothing of this.
So do any number of lines. -/
theorem session_framed (run : Runner) :
    (∀ line sh, Framed line sh (execute run line sh)) ∧ ∀ lines sh, FramedAll run lines sh :=
  ⟨framed_execute run, framedAll_executeLines run⟩

end CommandShell.Shell
