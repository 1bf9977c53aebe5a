import CommandShell.Session.Execute
/-! Work in stages. What each stage keeps is kept by the whole. -/
namespace CommandShell

namespace World

/-- What comes next after a success only. -/
theorem next_stage (P : World → Prop) {r : World × Option Fault}
    {next : World → World × Option Fault} (hn : ∀ w, P w → P (next w).1) (h : P r.1) :
    P (match r with
      | (w, some cause) => (w, some cause)
      | (w, none) => next w).1 := by
  obtain ⟨w, _ | cause⟩ := r
  · exact hn w h
  · exact h

theorem hold_stages (P : World → Prop) (hr : ∀ w, P w → P w.release.1)
    (hp : ∀ bs w, P w → P (w.passOn bs).1)
    (hh : ∀ bs w, P w → P { w with pending := w.pending ++ bs }) (bs : Bytes) {w : World}
    (h : P w) : P (w.hold bs).1 := by
  refine next_stage P (fun w h => ?_) ?_
  · split
    · exact hp bs w h
    · exact hh bs w h
  · split
    · exact hr w h
    · exact h

/-- Output is held back, passed on, or released. -/
theorem writeOwn_stages (P : World → Prop) (hr : ∀ w, P w → P w.release.1)
    (hp : ∀ bs w, P w → P (w.passOn bs).1)
    (hh : ∀ bs w, P w → P { w with pending := w.pending ++ bs }) (bs : Bytes) {w : World}
    (h : P w) : P (w.writeOwn bs).1 := by
  have held : ∀ bs w, P w → P (w.hold bs).1 := fun bs w h => hold_stages P hr hp hh bs h
  unfold writeOwn
  split
  · refine next_stage P (held _) ?_
    split
    · exact hr w h
    · exact h
  · refine next_stage P (held _) ?_
    split
    · exact hp _ w h
    · exact next_stage P hr (held _ w h)

theorem print_stages (P : World → Prop) {out : Outlet} (hw : ∀ bs w, P w → P (w.write out bs).1)
    (ts : List Text) {w : World} (h : P w) : P (print out ts w).1 := by
  induction ts generalizing w with
  | nil => exact h
  | cons t ts ih => exact next_stage P (fun w h => ih h) (hw (Utf8.encode t) w h)

/-- A failure is noted and told, and noted again if it could not be told. -/
theorem report_stages (P : World → Prop) {out : Outlet} (message : Text)
    (hn : ∀ r w, P w → P (w.note r)) (hc : ∀ w, P w → P (w.complain out message).1) {w : World}
    (h : P w) : P (w.report out message) := by
  have hboth := hc _ (hn (.failed message) w h)
  unfold report
  split
  · rename_i he
    rw [he] at hboth
    exact hboth
  · rename_i he
    rw [he] at hboth
    exact hn _ _ hboth

end World

/-- A session that takes over variables notes which ones it leaves out, and no more. -/
theorem Session.inherit_stages (P : World → Prop) (directory : Text) {w : World}
    (hn : ∀ r w, P w → P (w.note r)) (h : P w) : P (Session.inherit directory w).world := by
  have skipped : ∀ (names : List Text) (w : World), P w →
      P (names.foldl (fun w n => w.note (.skippedVariable n)) w) := by
    intro names
    induction names with
    | nil => exact fun w h => h
    | cons n names ih => exact fun w h => ih _ (hn (.skippedVariable n) w h)
  exact skipped _ w h

namespace Shell

theorem typeEach_stages (P : Shell → Prop) {out : Outlet}
    (hs : ∀ texts sh, P sh → P (sh.say .type out texts).1) (names : List Text) (code : Int)
    {sh : Shell} (h : P sh) : P (typeEach out names code sh).1 := by
  induction names generalizing code sh with
  | nil => exact h
  | cons name names ih =>
    have hsaid := hs ((sh.meaning name).texts name) sh h
    unfold typeEach
    split
    · rename_i he
      rw [he] at hsaid
      exact hsaid
    · rename_i he
      rw [he] at hsaid
      exact ih _ hsaid

/-- A fault that is no more than noted. -/
theorem noted_stage (P : Shell → Prop) {sh : Shell} (hn : ∀ r sh, P sh → P (sh.note r))
    (r : Fault → Record) (fault : Option Fault) (h : P sh) :
    P (match fault with
      | none => sh
      | some cause => sh.note (r cause)) := by
  cases fault with
  | none => exact h
  | some cause => exact hn (r cause) sh h

/-- A built-in that has been run is reported if it failed, then its output is flushed, and then its
outlets are closed. -/
theorem executeBuiltin_stages (P Q : Shell → Prop) (b : Builtin) (c : Command) (o : Outlets)
    {sh : Shell} (hr : ∀ f sh, P sh → P (sh.report o.errors f))
    (hf : ∀ sh, P sh → P { sh with world := (sh.world.flushOutlet o.output).1 })
    (hn : ∀ r sh, P sh → P (sh.note r)) (hc : ∀ sh, P sh → Q (sh.mapWorld o.close))
    (h : P (sh.runBuiltin b c.arguments o.output).1) : Q (sh.executeBuiltin b c o).1 := by
  have ended : ∀ sh, P sh → Q
      ((match (sh.world.flushOutlet o.output).2 with
        | none => { sh with world := (sh.world.flushOutlet o.output).1 }
        | some cause => note (.notFlushed c.name cause)
            { sh with world := (sh.world.flushOutlet o.output).1 }).mapWorld o.close) :=
    fun sh h => hc _ (noted_stage P hn (.notFlushed c.name) _ (hf sh h))
  unfold executeBuiltin
  generalize sh.runBuiltin b c.arguments o.output = r at h
  obtain ⟨sh', f | code⟩ := r
  · exact ended _ (hr f sh' h)
  · exact ended sh' h

/-- What is told of a program that was launched. -/
theorem ended_stage (Q : Shell → Prop) (c : Command) {sh : Shell}
    (hr : ∀ f sh, Q sh → Q (sh.report .own f)) (hn : ∀ r sh, Q sh → Q (sh.note r))
    (r : World × Except Fault WaitStatus) (h : Q { sh with world := r.1 }) :
    Q (match r with
      | (world, .error cause) =>
        ({ sh with world }.report .own (.launch c.name cause), failureStatus)
      | (world, .ok status) =>
        let sh := { sh with world }
        (if world.killedBy.isSome then sh else sh.note (.finished c.name status),
          status.code)).1 := by
  obtain ⟨w, cause | status⟩ := r
  · exact hr _ _ h
  · dsimp only
    split
    · exact h
    · exact hn _ _ h

/-- A program is noted and launched, and then it is told how that went. -/
theorem executeProgram_stages (P Q : Shell → Prop) (run : Runner) (path : Text) (c : Command)
    (o : Outlets) {sh : Shell} (hn : ∀ r sh, P sh → P (sh.note r))
    (hl : ∀ l sh, P sh → Q { sh with world := (sh.world.launch run l o).1 })
    (hr : ∀ f sh, Q sh → Q (sh.report .own f)) (hn' : ∀ r sh, Q sh → Q (sh.note r))
    (h : P { sh with world := sh.world.flush.1 }) : Q (sh.executeProgram run path c o).1 := by
  have hnoted := noted_stage P hn .notFlushedBeforeLaunch sh.world.flush.2 h
  exact ended_stage Q c hr hn' _ (hl _ _ (hn (.launching path c.name c.arguments) _ hnoted))

end Shell
end CommandShell
