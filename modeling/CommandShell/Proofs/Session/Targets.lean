import CommandShell.Proofs.Line.Extraction
import CommandShell.Session.Execute
/-! The targets of a line are opened one after the other: that of output, then that of errors. -/
namespace CommandShell

namespace Redirects
variable {rs : Redirects} {n : Nat}

/-- The redirections of lower descriptors. -/
def below (rs : Redirects) (n : Nat) : Redirects := rs.filter fun r => r.1 < n

/-- The redirections of higher descriptors. -/
def above (rs : Redirects) (n : Nat) : Redirects := rs.filter fun r => n < r.1

theorem mem_below {r : Nat × Text} : r ∈ rs.below n ↔ r ∈ rs ∧ r.1 < n := by
  simp [below]

theorem mem_above {r : Nat × Text} : r ∈ rs.above n ↔ r ∈ rs ∧ n < r.1 := by
  simp [above]

theorem below_cons (m : Nat) (t : Text) (rs : Redirects) (n : Nat) :
    below ((m, t) :: rs) n = if m < n then (m, t) :: below rs n else below rs n := by
  simp [below, List.filter_cons]

theorem above_cons (m : Nat) (t : Text) (rs : Redirects) (n : Nat) :
    above ((m, t) :: rs) n = if n < m then (m, t) :: above rs n else above rs n := by
  simp [above, List.filter_cons]

theorem below_eq_nil (h : ∀ r ∈ rs, n ≤ r.1) : rs.below n = [] := by
  refine List.eq_nil_iff_forall_not_mem.2 fun r hr => ?_
  obtain ⟨hmem, hlt⟩ := mem_below.1 hr
  exact absurd (h r hmem) (Nat.not_le.2 hlt)

theorem above_eq_self (h : ∀ r ∈ rs, n < r.1) : rs.above n = rs :=
  List.filter_eq_self.2 fun r hr => decide_eq_true (h r hr)

theorem target?_above (rs : Redirects) {m : Nat} (h : m < n) :
    (rs.above m).target? n = rs.target? n := by
  induction rs with
  | nil => rfl
  | cons r rs ih =>
    obtain ⟨k, t⟩ := r
    rw [target?_cons, above_cons]
    by_cases hk : m < k
    · rw [if_pos hk, target?_cons, ih]
    · have hne : n ≠ k := by omega
      rw [if_neg hk, if_neg hne, ih]

/-- Lower descriptors come first, then the descriptor itself, then the higher ones. -/
theorem Ascending.split (h : rs.Ascending) (n : Nat) :
    rs = rs.below n ++ ((rs.target? n).map (n, ·)).toList ++ rs.above n := by
  induction rs with
  | nil => rfl
  | cons r rs ih =>
    obtain ⟨m, t⟩ := r
    obtain ⟨hm, hrs⟩ := List.pairwise_cons.1 h
    rcases Nat.lt_trichotomy m n with hlt | rfl | hgt
    · have hne : n ≠ m := Nat.ne_of_gt hlt
      have hnot : ¬ n < m := Nat.not_lt_of_gt hlt
      rw [below_cons, if_pos hlt, above_cons, if_neg hnot, target?_cons, if_neg hne,
        List.cons_append, List.cons_append, ← ih hrs]
    · have hself : above rs m = rs := above_eq_self hm
      have hnone : below rs m = [] := below_eq_nil fun q hq => Nat.le_of_lt (hm q hq)
      rw [below_cons, if_neg (Nat.lt_irrefl m), above_cons, if_neg (Nat.lt_irrefl m), hself, hnone,
        target?_cons, if_pos rfl]
      rfl
    · have hall : ∀ q ∈ (m, t) :: rs, n < q.1 := by
        intro q hq
        rcases List.mem_cons.1 hq with rfl | hq
        · exact hgt
        · exact Nat.lt_trans hgt (hm q hq)
      have hnone : target? ((m, t) :: rs) n = none :=
        target?_eq_none fun q hq => Nat.ne_of_gt (hall q hq)
      rw [below_eq_nil fun q hq => Nat.le_of_lt (hall q hq), above_eq_self hall, hnone]
      rfl

/-- The redirections in the order in which they are looked at. -/
theorem Ascending.split_streams (h : rs.Ascending) :
    rs = rs.below standardOutput ++
      ((rs.target? standardOutput).map (standardOutput, ·)).toList ++
      (((rs.target? standardError).map (standardError, ·)).toList ++ rs.above standardError) := by
  have hrising : Ascending (rs.above standardOutput) := List.Pairwise.filter _ h
  have hbelow : (rs.above standardOutput).below standardError = [] :=
    below_eq_nil fun q hq => (mem_above.1 hq).2
  have habove : (rs.above standardOutput).above standardError = rs.above standardError := by
    rw [above, above, above, List.filter_filter]
    refine List.filter_congr fun q _ => ?_
    rw [← Bool.decide_and, decide_eq_decide]
    exact ⟨And.left, fun hq => ⟨hq, Nat.lt_of_succ_lt hq⟩⟩
  have htarget : (rs.above standardOutput).target? standardError = rs.target? standardError :=
    target?_above rs (Nat.lt_succ_self standardOutput)
  have hsplit := hrising.split standardError
  rw [hbelow, habove, htarget, List.nil_append] at hsplit
  rw [← hsplit]
  exact h.split standardOutput

end Redirects

namespace World

/-- Notes of redirections that are no more than noted. -/
def ignoreAll (rs : Redirects) (w : World) : World :=
  rs.foldl (fun w r => w.note (.ignored r.1 r.2)) w

/-- Opens the target of a stream, if the stream has one. -/
def openStream (currentDir : Text) (target : Option Text) (w : World) :
    World × Except Fault Outlet :=
  match target with
  | none => (w, .ok .own)
  | some t =>
    match w.openFile .truncate (Path.join currentDir t) with
    | (w, .error cause) => (w, .error cause)
    | (w, .ok h) => (w, .ok (.handle h))

/-- All that can come of opening the target of a stream. -/
inductive Streamed (currentDir : Text) (w : World) :
    Option Text → World × Except Fault Outlet → Prop
  | own : Streamed currentDir w none (w, .ok .own)
  | failed {t : Text} {cause : Fault}
      (he : w.disk.openFile w.cwd .truncate (Path.join currentDir t) = .error cause) :
      Streamed currentDir w (some t) (w, .error cause)
  | opened {t : Text} {disk : Disk} {f : OpenFile}
      (ho : w.disk.openFile w.cwd .truncate (Path.join currentDir t) = .ok (disk, f)) :
      Streamed currentDir w (some t)
        ({ w with surroundings := { w.surroundings with disk }
                  descriptors := (w.descriptors.insert f).1 },
          .ok (.handle (w.descriptors.insert f).2))

theorem streamed_openStream (currentDir : Text) (target : Option Text) (w : World) :
    Streamed currentDir w target (w.openStream currentDir target) := by
  cases target with
  | none => exact .own
  | some t =>
    rw [openStream, openFile]
    cases ho : w.disk.openFile w.cwd .truncate (Path.join currentDir t) with
    | error cause => exact .failed ho
    | ok opened => exact .opened ho

variable (command currentDir : Text)

theorem openTargets_ignored {low : Redirects}
    (hlow : ∀ r ∈ low, r.1 ≠ standardOutput ∧ r.1 ≠ standardError) (rs : Redirects) (o : Outlets)
    (w : World) :
    openTargets command currentDir (low ++ rs) o w =
      openTargets command currentDir rs o (w.ignoreAll low) := by
  induction low generalizing w with
  | nil => rfl
  | cons r low ih =>
    obtain ⟨hout, herr⟩ := hlow r (List.mem_cons_self ..)
    rw [List.cons_append, openTargets, if_neg (not_or.2 ⟨hout, herr⟩)]
    exact ih (fun q hq => hlow q (List.mem_cons_of_mem _ hq)) _

theorem openTargets_output (target : Option Text) (rs : Redirects) (w : World) :
    openTargets command currentDir ((target.map (standardOutput, ·)).toList ++ rs) {} w =
      match w.openStream currentDir target with
      | (w, .error cause) =>
        (w, .error (.redirection command (target.getD []) cause))
      | (w, .ok out) => openTargets command currentDir rs { output := out } w := by
  cases target with
  | none => rfl
  | some t =>
    rw [Option.map_some, Option.toList_some, List.singleton_append, openTargets,
      if_pos (Or.inl rfl), openStream]
    cases w.openFile .truncate (Path.join currentDir t) with
    | mk w r =>
      cases r with
      | error cause => rfl
      | ok h => rfl

theorem openTargets_errors (target : Option Text) (rs : Redirects) (out : Outlet) (w : World) :
    openTargets command currentDir ((target.map (standardError, ·)).toList ++ rs)
        { output := out } w =
      match w.openStream currentDir target with
      | (w, .error cause) =>
        (w.closeOutlet out, .error (.redirection command (target.getD []) cause))
      | (w, .ok err) => openTargets command currentDir rs { output := out, errors := err } w := by
  cases target with
  | none => rfl
  | some t =>
    rw [Option.map_some, Option.toList_some, List.singleton_append, openTargets,
      if_pos (Or.inr rfl), openStream]
    cases w.openFile .truncate (Path.join currentDir t) with
    | mk w r =>
      cases r with
      | error cause => rfl
      | ok h => rfl

/-- Two files at most are opened. The other redirections are noted, up to the first target that
cannot be opened. -/
theorem openTargets_eq {rs : Redirects} (h : rs.Ascending) (w : World) :
    openTargets command currentDir rs {} w =
      match (w.ignoreAll (rs.below standardOutput)).openStream currentDir
          (rs.target? standardOutput) with
      | (w, .error cause) =>
        (w, .error (.redirection command ((rs.target? standardOutput).getD []) cause))
      | (w, .ok out) =>
        match w.openStream currentDir (rs.target? standardError) with
        | (w, .error cause) =>
          (w.closeOutlet out,
            .error (.redirection command ((rs.target? standardError).getD []) cause))
        | (w, .ok err) =>
          (w.ignoreAll (rs.above standardError), .ok { output := out, errors := err }) := by
  have hlow : ∀ r ∈ rs.below standardOutput, r.1 ≠ standardOutput ∧ r.1 ≠ standardError := by
    intro r hr
    have hlt : r.1 < standardOutput := (Redirects.mem_below.1 hr).2
    exact ⟨Nat.ne_of_lt hlt, Nat.ne_of_lt (Nat.lt_succ_of_lt hlt)⟩
  have hhigh : ∀ r ∈ rs.above standardError, r.1 ≠ standardOutput ∧ r.1 ≠ standardError := by
    intro r hr
    have hlt : standardError < r.1 := (Redirects.mem_above.1 hr).2
    exact ⟨Nat.ne_of_gt (Nat.lt_of_succ_lt hlt), Nat.ne_of_gt hlt⟩
  have hend : ∀ (o : Outlets) (w : World),
      openTargets command currentDir (rs.above standardError) o w =
        (w.ignoreAll (rs.above standardError), .ok o) := by
    intro o w
    have hrest := openTargets_ignored command currentDir hhigh [] o w
    rwa [List.append_nil] at hrest
  conv_lhs => rw [h.split_streams]
  rw [List.append_assoc, openTargets_ignored command currentDir hlow, openTargets_output]
  cases (w.ignoreAll (rs.below standardOutput)).openStream currentDir
      (rs.target? standardOutput) with
  | mk w r =>
    cases r with
    | error cause => rfl
    | ok out =>
      dsimp only
      rw [openTargets_errors]
      cases w.openStream currentDir (rs.target? standardError) with
      | mk w r =>
        cases r with
        | error cause => rfl
        | ok err => exact hend _ _

end World

namespace CommandLine

/-- Whoever the targets of a line are opened for. -/
def opener (l : CommandLine) : Text :=
  match l.command with
  | some c => c.name
  | none => shellName

theorem ascending_of_parse? {line : Text} {l : CommandLine} (h : parse? line = some l) :
    l.redirects.Ascending := by
  unfold parse? at h
  dsimp only at h
  split at h
  · cases h
  · cases h
    exact (redirects_spec _).1

end CommandLine

namespace Shell

variable {run : Runner} {sh : Shell} {line : Text} {l : CommandLine}

/-- What comes of the targets of a line. -/
def targets (l : CommandLine) (sh : Shell) : World × Except Failure Outlets :=
  World.openTargets l.opener sh.session.currentDir l.redirects {} (sh.world.note (.parsed l))

/-- All targets of the line can be opened. -/
def Opens (l : CommandLine) (sh : Shell) : Prop := ∃ o, (sh.targets l).2 = .ok o

theorem execute_blank (h : CommandLine.parse? line = none) : sh.execute run line = (sh, 0) := by
  rw [execute, h]

theorem execute_eq (h : CommandLine.parse? line = some l) :
    sh.execute run line =
      match sh.targets l with
      | (world, .error f) => ({ sh with world }.report .own f, failureStatus)
      | (world, .ok o) =>
        match l.command with
        | none => ({ sh with world }.mapWorld o.close, 0)
        | some c => { sh with world }.executeCommand run c o := by
  rw [execute, h]
  rfl

end Shell
end CommandShell
