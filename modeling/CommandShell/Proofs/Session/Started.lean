import CommandShell.Proofs.Session.Parts
/-! The programs that lines start. What all other programs would do makes no difference. -/
namespace CommandShell

/-- The program that a request starts, if it can be started. -/
def World.started (l : Launch) (o : Outlets) (w : World) : Option Process :=
  match l.start w.disk w.cwd w.writing w.environment w.input with
  | .error _ => none
  | .ok process => some { process with busy := (o.close w).writing }

namespace Shell

variable {run run' : Runner} {sh : Shell} {line : Text} {lines : List Text} {p : Process}

/-- The program that a command starts, if its name means one. -/
def startedFor (c : Command) (o : Outlets) (sh : Shell) : Option Process :=
  match sh.meaning c.name with
  | .program path => (sh.prepared path c).world.started ((sh.prepared path c).launchOf path c o) o
  | _ => none

/-- The program that a line starts, if it comes to that. -/
def started (line : Text) (sh : Shell) : Option Process :=
  match CommandLine.parse? line with
  | none => none
  | some l =>
    match sh.targets l, l.command with
    | (world, .ok o), some c => { sh with world }.startedFor c o
    | _, _ => none

/-- The programs that lines start one after the other. -/
def programs (run : Runner) : List Text → Shell → List Process
  | [], _ => []
  | line :: lines, sh => (sh.started line).toList ++ programs run lines (sh.execute run line).1

theorem launch_congr {l : Launch} {o : Outlets} {w : World}
    (h : ∀ p, w.started l o = some p → run p = run' p) : w.launch run l o = w.launch run' l o := by
  unfold World.started at h
  unfold World.launch
  cases hstart : l.start w.disk w.cwd w.writing w.environment w.input with
  | error cause => rfl
  | ok process =>
    rw [hstart] at h
    dsimp only
    rw [h _ rfl]

theorem executeCommand_congr {c : Command} {o : Outlets}
    (h : ∀ p, sh.startedFor c o = some p → run p = run' p) :
    sh.executeCommand run c o = sh.executeCommand run' c o := by
  unfold startedFor at h
  unfold executeCommand
  cases hm : sh.meaning c.name with
  | builtin b => rfl
  | nothing => rfl
  | program path =>
    rw [hm] at h
    dsimp only
    rw [executeProgram_eq, executeProgram_eq, launched, launched, launch_congr h]

/-- A line depends on what the program does that it starts, and on no other program. -/
theorem execute_congr (h : ∀ p, sh.started line = some p → run p = run' p) :
    sh.execute run line = sh.execute run' line := by
  unfold started at h
  cases hl : CommandLine.parse? line with
  | none => rw [execute_blank hl, execute_blank hl]
  | some l =>
    rw [execute_eq hl, execute_eq hl]
    rw [hl] at h
    dsimp only at h
    generalize sh.targets l = r at h
    obtain ⟨w, f | o⟩ := r
    · rfl
    · cases hc : l.command with
      | none => rfl
      | some c =>
        rw [hc] at h
        exact executeCommand_congr h

theorem programs_cons (run : Runner) (line : Text) (lines : List Text) (sh : Shell) :
    programs run (line :: lines) sh =
      (sh.started line).toList ++ programs run lines (sh.execute run line).1 := rfl

/-- So do any number of lines. -/
theorem executeLines_congr (h : ∀ p ∈ sh.programs run lines, run p = run' p) :
    executeLines run lines sh = executeLines run' lines sh := by
  induction lines generalizing sh with
  | nil => rw [executeLines_nil, executeLines_nil]
  | cons line lines ih =>
    rw [programs_cons] at h
    have hline : sh.execute run line = sh.execute run' line := by
      apply execute_congr
      intro p hp
      exact h p (List.mem_append_left _ (Option.mem_toList.2 hp))
    rw [executeLines_cons, executeLines_cons, ← hline]
    exact ih fun p hp => h p (List.mem_append_right _ hp)

/-- Each of the programs is started by one of the lines. -/
theorem mem_programs (h : p ∈ sh.programs run lines) :
    ∃ before line, (executeLines run before sh).started line = some p := by
  induction lines generalizing sh with
  | nil => cases h
  | cons line lines ih =>
    rcases List.mem_append.1 h with h | h
    · exact ⟨[], line, Option.mem_toList.1 h⟩
    · obtain ⟨before, later, hstarted⟩ := ih h
      exact ⟨line :: before, later, hstarted⟩

end Shell
end CommandShell
