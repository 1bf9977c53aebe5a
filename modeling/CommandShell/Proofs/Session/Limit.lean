import CommandShell.Proofs.Session.Replies
import CommandShell.Proofs.Session.Supplies
/-! The limit of a loop is out of its reach: each line that it executes takes something from what its
source has to give. -/
namespace CommandShell

variable {run : Runner} {text line : Text} {sh : Shell} {s : Shell × Source} {i : Nat}

theorem firstLine_rest_length (bs : Bytes) : (firstLine bs).rest.length ≤ bs.length - 1 := by
  induction bs with
  | nil => simp [firstLine]
  | cons b bs ih =>
    unfold firstLine
    split
    · simp
    · simp only [List.length_cons, Nat.add_sub_cancel]
      omega

/-- There are so many bytes to read at most, whatever becomes of the disk. -/
def Intake.Within (n : Nat) : Intake → Prop
  | bytes rest => rest.length ≤ n
  | file _ => False
  | refusing _ => True

/-- Programs add nothing to an input that is no file. -/
def Runner.Consumes (run : Runner) : Prop :=
  ∀ (p : Process) (s : Surroundings) (n : Nat), p.input.Within n → (run p s).input.Within n

theorem idleRunner_consumes : idleRunner.Consumes := fun _ _ _ h => h

theorem Intake.Leaves.within {j k : Intake} {n : Nat} (h : j.Leaves run k) (hr : run.Consumes)
    (hj : j.Within n) : k.Within n := by
  induction h with
  | all => exact hj
  | program s _ ih => exact hr _ s n ih

/-- What is read goes ahead of the lines, and nothing is added to it. -/
theorem fill_within (d : Disk) (blocks n : Nat) (ahead : Bytes) {j : Intake} (h : j.Within n) :
    ∃ m, (fill d blocks ahead j).2.1.Within m ∧
      (fill d blocks ahead j).1.length + m ≤ ahead.length + n := by
  induction blocks generalizing ahead j n with
  | zero => exact ⟨n, h, Nat.le_refl _⟩
  | succ blocks ih =>
    unfold fill
    split
    · exact ⟨n, h, Nat.le_refl _⟩
    · cases j with
      | file f => exact h.elim
      | refusing cause => exact ⟨n, h, Nat.le_refl _⟩
      | bytes rest =>
        have hlen : rest.length ≤ n := h
        have hdrop : (Intake.bytes (rest.drop blockLength)).Within
            (n - (rest.take blockLength).length) := by
          rw [Intake.Within, List.length_drop, List.length_take]
          omega
        have htake : (rest.take blockLength).length ≤ n := by
          rw [List.length_take]
          omega
        rw [Intake.read]
        cases hread : rest.take blockLength with
        | nil =>
          rw [hread] at hdrop
          exact ⟨n, hdrop, Nat.le_refl _⟩
        | cons b bs =>
          rw [hread] at hdrop htake
          obtain ⟨m, hm, hsum⟩ := ih (n - (b :: bs).length) (ahead ++ b :: bs) hdrop
          refine ⟨m, hm, Nat.le_trans hsum ?_⟩
          rw [List.length_append]
          omega

/-- All that the source gives is there before the first request. -/
def Source.Settled : Source → Prop
  | .standard _ => False
  | _ => True

/-- The source gives so many lines at most. -/
def Source.Within (n : Nat) (w : World) : Source → Prop
  | .replies rest _ => rest.length ≤ n
  | .memory bs => bs.length ≤ n
  | .standard ahead => ∃ m, w.input.Within m ∧ ahead.length + m ≤ n

theorem Source.Within.supplied {source : Source} {n : Nat} {w w' : World}
    (h : source.Within n w) (hs : source.Settled ∨ run.Consumes) (hw : w.Supplied run w') :
    source.Within n w' := by
  cases source with
  | replies rest prompting => exact h
  | memory bs => exact h
  | standard ahead =>
    obtain ⟨m, hm, hsum⟩ := h
    exact ⟨m, hw.input.within (hs.resolve_left id) hm, hsum⟩

theorem Intake.Within.length {j : Intake} {n : Nat} (h : j.Within n) (d : Disk) :
    j.Within (j.length d) := by
  cases j with
  | bytes rest => exact Nat.le_refl _
  | file f => exact h.elim
  | refusing cause => trivial

theorem Source.bound_standard {w : World} {n : Nat} (h : w.input.Within n) (ahead : Bytes) :
    (Source.standard ahead).bound w = ahead.length + w.input.length w.disk + 1 := by
  rw [Source.bound]
  cases hi : w.input with
  | bytes rest => rfl
  | file f =>
    rw [hi] at h
    exact h.elim
  | refusing cause => rfl

theorem Source.within_bound {source : Source} {w : World}
    (h : source.Settled ∨ ∃ n, w.input.Within n) :
    ∃ n, source.Within n w ∧ source.bound w = n + 1 := by
  cases source with
  | replies rest prompting => exact ⟨_, Nat.le_refl _, rfl⟩
  | memory bs => exact ⟨_, Nat.le_refl _, rfl⟩
  | standard ahead =>
    obtain ⟨n, hn⟩ := h.resolve_left id
    exact ⟨_, ⟨_, hn.length w.disk, Nat.le_refl _⟩, bound_standard hn ahead⟩

namespace Shell

theorem takeLine_of_line {bs : Bytes} (h : (sh.takeLine bs).2.2 = .line line) :
    (sh.takeLine bs).2.1.length < bs.length ∧ (sh.takeLine bs).1.world.input = sh.world.input := by
  cases bs with
  | nil => cases h
  | cons b bs =>
    have hlen := firstLine_rest_length (b :: bs)
    have hinput : (sh.noteMalformed (b :: bs)).world.input = sh.world.input := by
      unfold noteMalformed
      split
      · rfl
      · exact (World.mutters_note _ _).input
    refine ⟨?_, hinput⟩
    simp only [takeLine, nextLine?, List.isEmpty_cons, Bool.false_eq_true, if_false]
    simp only [List.length_cons] at hlen ⊢
    omega

/-- A line takes something from its source. -/
theorem take_within {n : Nat} (h : s.2.Within n s.1.world) (hl : (take s).2 = .line line) :
    ∃ m < n, (take s).1.2.Within m (take s).1.1.world ∧ (s.2.Settled → (take s).1.2.Settled) := by
  obtain ⟨sh, source⟩ := s
  cases source with
  | replies rs prompting =>
    rw [take_replies] at hl ⊢
    cases rs with
    | nil => cases hl
    | cons r rs => exact ⟨rs.length, h, Nat.le_refl _, fun _ => trivial⟩
  | memory bs =>
    have htaken : (sh.takeLine bs).2.1.length < bs.length := (takeLine_of_line hl).1
    exact ⟨_, Nat.lt_of_lt_of_le htaken h, Nat.le_refl _, fun _ => trivial⟩
  | standard ahead =>
    obtain ⟨m, hm, hsum⟩ := h
    obtain ⟨m', hm', hsum'⟩ :=
      fill_within sh.world.disk (sh.world.input.length sh.world.disk + 1) m ahead hm
    unfold take at hl ⊢
    dsimp only at hl ⊢
    generalize fill sh.world.disk (sh.world.input.length sh.world.disk + 1) ahead sh.world.input =
      r at hl hm' hsum' ⊢
    obtain ⟨ahead', input, _ | cause⟩ := r
    · obtain ⟨hlen, hinput⟩ := takeLine_of_line hl
      have hless := Nat.lt_of_lt_of_le (Nat.add_lt_add_right hlen m') (Nat.le_trans hsum' hsum)
      refine ⟨_, hless, ⟨m', ?_, Nat.le_refl _⟩, False.elim⟩
      rw [hinput]
      exact hm'
    · cases hl

theorem supplied_shown (prompting : Bool) (text : Text) (sh : Shell) :
    sh.world.Supplied run (shown prompting text sh).1.world := by
  cases prompting with
  | false => exact .refl run sh.world
  | true =>
    have hp : sh.world.Supplied run (World.print .own [text] sh.world).1 :=
      World.supplied_print sh.world .own [text]
    rw [shown, prompt, Source.prompting, if_pos rfl]
    generalize World.print .own [text] sh.world = r at hp
    obtain ⟨w, _ | cause⟩ := r
    · exact hp.trans (World.supplied_flush w)
    · exact hp

theorem round_within {n : Nat} (hs : s.2.Settled ∨ run.Consumes) (h : s.2.Within n s.1.world)
    (hr : reply text s = .line line) :
    ∃ m < n, (round run text s).2.Within m (round run text s).1.world ∧
      ((round run text s).2.Settled ∨ run.Consumes) := by
  obtain ⟨ha, hl⟩ := take_of_line hr
  obtain ⟨m, hm, hwithin, hsettled⟩ :=
    take_within (s := ((prompted text s).1, s.2)) (h.supplied hs (supplied_shown _ text s.1)) hl
  have hs' := hs.imp_left hsettled
  rw [round_of_line hr, ha]
  exact ⟨m, hm, hwithin.supplied hs' (supplied_execute run line _), hs'⟩

/-- A round is out of reach once the source has given all it has. -/
theorem le_of_asks {n : Nat} (hs : s.2.Settled ∨ run.Consumes) (h : s.2.Within n s.1.world)
    (ha : Asks run text s i) : i ≤ n := by
  induction i generalizing s n with
  | zero => exact Nat.zero_le n
  | succ i ih =>
    obtain ⟨-, ⟨line, hr⟩, ha⟩ := asks_succ.1 ha
    obtain ⟨m, hm, hwithin, hs'⟩ := round_within hs h hr
    exact Nat.lt_of_le_of_lt (ih hs' hwithin ha) hm

/-- The limit does not show where all lines are settled, nor where they come from an input that is no
file and gets no longer. -/
theorem lt_bound_of_asks
    (hs : s.2.Settled ∨ run.Consumes ∧ ∃ n, s.1.world.input.Within n)
    (ha : Asks run text s i) : i < s.2.bound s.1.world := by
  obtain ⟨n, hn, hbound⟩ := Source.within_bound (hs.imp_right And.right)
  rw [hbound]
  exact Nat.lt_succ_of_le (le_of_asks (hs.imp_right And.left) hn ha)

end Shell
end CommandShell
