import CommandShell.Proofs.Session.Act
import CommandShell.Proofs.World.Handles
/-! A line closes what was opened for it, however it ends, and leaves everything else open. -/
namespace CommandShell

variable {base d d' d'' : Descriptors} {hs : List Handle} {o : Outlets} {out : Outlet}

namespace Descriptors

/-- What happens to the files of one line. -/
def events (hs : List Handle) : List HandleEvent :=
  (hs.map .closed).reverse ++ (hs.map .opened).reverse

/-- All that was opened since was opened for one line or another, and closed by it. -/
def Restored (d d' : Descriptors) : Prop :=
  d'.table = d.table ∧
    ∃ lines : List (List Handle), (∀ hs ∈ lines, hs.Nodup) ∧
      d'.history = lines.flatMap events ++ d.history

theorem Released.restored (h : Released hs d d') : Restored d d' := by
  refine ⟨h.table, [hs], ?_, ?_⟩
  · rintro hs' hmem
    rw [List.mem_singleton.1 hmem]
    exact h.nodup
  · rw [h.history]
    simp [events]

theorem Restored.refl (d : Descriptors) : Restored d d :=
  ⟨rfl, [], fun _ hs => absurd hs List.not_mem_nil, rfl⟩

theorem Restored.trans (h : Restored d d') (h' : Restored d' d'') : Restored d d'' := by
  obtain ⟨htable, lines, hnodup, hhistory⟩ := h
  obtain ⟨htable', lines', hnodup', hhistory'⟩ := h'
  refine ⟨htable'.trans htable, lines' ++ lines, fun hs hmem => ?_, ?_⟩
  · rcases List.mem_append.1 hmem with hmem | hmem
    · exact hnodup' hs hmem
    · exact hnodup hs hmem
  · rw [hhistory', hhistory, List.flatMap_append, List.append_assoc]

end Descriptors

namespace Shell

variable {sh : Shell}

theorem beyond_say (b : Builtin) (texts : List Text) (ho : out.handles ⊆ hs)
    (hb : base.Beyond hs sh.world.descriptors) :
    base.Beyond hs (sh.say b out texts).1.world.descriptors :=
  World.beyond_print hb ho texts

theorem beyond_typeEach (ho : out.handles ⊆ hs) (names : List Text) (code : Int)
    (hb : base.Beyond hs sh.world.descriptors) :
    base.Beyond hs (typeEach out names code sh).1.world.descriptors :=
  typeEach_stages (base.Beyond hs ·.world.descriptors)
    (fun texts _ h => beyond_say .type texts ho h) names code hb

theorem enter_descriptors (arg path : Text) (sh : Shell) :
    (sh.enter arg path).1.world.descriptors = sh.world.descriptors := by
  unfold enter
  split
  · split
    · exact World.note_descriptors _ _
    · rfl
  · rfl

theorem cd_descriptors (args : List Text) (sh : Shell) :
    (sh.cd args).1.world.descriptors = sh.world.descriptors := by
  unfold cd
  split
  · rfl
  · split
    · rfl
    · exact enter_descriptors _ _ sh

/-- A built-in opens and closes nothing, and writes to its own output only. -/
theorem beyond_runBuiltin (b : Builtin) (args : List Text) (ho : out.handles ⊆ hs)
    (hb : base.Beyond hs sh.world.descriptors) :
    base.Beyond hs (sh.runBuiltin b args out).1.world.descriptors := by
  cases b with
  | exit => exact hb
  | echo => exact beyond_say _ _ ho hb
  | type =>
    rw [runBuiltin, typeNames]
    split
    · exact hb
    · exact beyond_typeEach ho args 0 hb
  | pwd => exact beyond_say _ _ ho hb
  | cd =>
    rw [runBuiltin, cd_descriptors]
    exact hb

/-- Closing its outlets gives back all that was opened for a command. -/
theorem released_close (hb : base.Beyond o.handles sh.world.descriptors) :
    base.Released o.handles (sh.mapWorld o.close).world.descriptors := by
  have hc : (sh.mapWorld o.close).world.descriptors =
      o.handles.foldl Descriptors.close sh.world.descriptors := World.close_descriptors o sh.world
  rw [hc]
  exact hb.released

theorem released_executeBuiltin (b : Builtin) (c : Command)
    (hb : base.Beyond o.handles sh.world.descriptors) :
    base.Released o.handles (sh.executeBuiltin b c o).1.world.descriptors := by
  have hout : o.output.handles ⊆ o.handles := List.subset_append_left _ _
  have herr : o.errors.handles ⊆ o.handles := List.subset_append_right _ _
  exact executeBuiltin_stages (base.Beyond o.handles ·.world.descriptors)
    (base.Released o.handles ·.world.descriptors) b c o
    (fun f _ h => World.beyond_report h herr f.message)
    (fun _ h => World.beyond_flushOutlet h o.output) (fun r _ h => World.beyond_note h r)
    (fun _ h => released_close h) (beyond_runBuiltin b c.arguments hout hb)

theorem released_launch (run : Runner) (l : Launch)
    (hb : base.Beyond o.handles sh.world.descriptors) :
    base.Released o.handles (sh.world.launch run l o).1.descriptors := by
  have hc := released_close hb
  rcases launch_cases run l o sh.world with he | ⟨process, he⟩
  · rw [he]
    exact hc
  · rw [he, (World.resume_spec _ _).2.2.2]
    exact hc

/-- A program takes what was opened for it with it, whether it can be started or not. -/
theorem released_executeProgram (run : Runner) (path : Text) (c : Command)
    (hb : base.Beyond o.handles sh.world.descriptors) :
    base.Released o.handles (sh.executeProgram run path c o).1.world.descriptors := by
  refine executeProgram_stages (base.Beyond o.handles ·.world.descriptors)
    (base.Released o.handles ·.world.descriptors) run path c o (fun r _ h => World.beyond_note h r)
    (fun l _ h => released_launch run l h)
    (fun f _ h => World.released_report h f.message) (fun r _ h => World.released_note h r) ?_
  exact World.beyond_flushOutlet hb .own

theorem released_executeCommand (run : Runner) (c : Command)
    (hb : base.Beyond o.handles sh.world.descriptors) :
    base.Released o.handles (sh.executeCommand run c o).1.world.descriptors := by
  have herr : o.errors.handles ⊆ o.handles := List.subset_append_right _ _
  unfold executeCommand
  split
  · exact released_executeBuiltin _ c hb
  · exact released_executeProgram run _ c hb
  · exact released_close (World.beyond_report hb herr _)

/-- The handles of the files that are opened for a line. -/
def opened (line : Text) (sh : Shell) : List Handle :=
  match CommandLine.parse? line with
  | none => []
  | some l => (sh.world.note (.parsed l)).opened sh.session.currentDir l.redirects

theorem released_execute (run : Runner) (line : Text) (sh : Shell) :
    sh.world.descriptors.Released (sh.opened line) (sh.execute run line).1.world.descriptors := by
  unfold opened
  cases hl : CommandLine.parse? line with
  | none =>
    rw [execute_blank hl]
    exact Descriptors.released_nil _
  | some l =>
    have ho := World.openTargets_descriptors l.opener sh.session.currentDir
      (CommandLine.ascending_of_parse? hl) (sh.world.note (.parsed l))
    rw [World.note_descriptors] at ho
    rw [execute_eq hl, targets]
    cases hr : World.openTargets l.opener sh.session.currentDir l.redirects {}
        (sh.world.note (.parsed l)) with
    | mk w r =>
      rw [hr] at ho
      cases r with
      | error f =>
        exact World.released_report ho f.message
      | ok o =>
        obtain ⟨hopened, hb⟩ := ho
        dsimp only
        rw [hopened]
        have hb' : sh.world.descriptors.Beyond o.handles
            ({ sh with world := w } : Shell).world.descriptors := hb
        cases l.command with
        | none => exact released_close hb'
        | some c => exact released_executeCommand run c hb'

/-- However a line ends, each file that was opened for it is closed once, and all that was open
before is open after it, and nothing else. So it is after any number of lines. -/
theorem descriptors_released (run : Runner) :
    (∀ line (sh : Shell), sh.world.descriptors.Released (sh.opened line)
      (sh.execute run line).1.world.descriptors) ∧
    ∀ lines (sh : Shell), sh.world.descriptors.Restored
      (executeLines run lines sh).world.descriptors := by
  refine ⟨released_execute run, fun lines sh => ?_⟩
  refine executeLines_induction
    (fun sh sh' => sh.world.descriptors.Restored sh'.world.descriptors) (fun sh => .refl _) .trans
    (fun line sh => ?_) lines sh
  exact (released_execute run line sh).restored

end Shell
end CommandShell
