import CommandShell.Proofs.Session.Replies
/-! What the rounds of a loop print, one after another. -/
namespace CommandShell.Shell

variable {run : Runner} {text : Text} {sh : Shell} {s : Shell × Source}

theorem noteMalformed_silent (bs : Bytes) (sh : Shell) :
    (sh.noteMalformed bs).session = sh.session ∧
      sh.world.Silent (sh.noteMalformed bs).world := by
  unfold noteMalformed
  split
  · exact ⟨rfl, .refl _⟩
  · exact ⟨rfl, World.silent_note _ _⟩

theorem takeLine_silent (bs : Bytes) (sh : Shell) :
    (sh.takeLine bs).1.session = sh.session ∧ sh.world.Silent (sh.takeLine bs).1.world := by
  unfold takeLine
  split
  · exact ⟨rfl, .refl _⟩
  · exact noteMalformed_silent bs sh

/-- Taking a line prints nothing. -/
theorem take_silent (s : Shell × Source) :
    (take s).1.1.session = s.1.session ∧ s.1.world.Silent (take s).1.1.world := by
  obtain ⟨sh, source⟩ := s
  cases source with
  | replies rs =>
    rw [take_replies]
    exact ⟨rfl, .refl _⟩
  | memory bs => exact takeLine_silent bs sh
  | standard ahead =>
    unfold take
    dsimp only
    generalize fill sh.world.disk (sh.world.input.length sh.world.disk + 1) ahead sh.world.input = r
    obtain ⟨ahead, input, fault⟩ := r
    have hi : sh.world.Silent (sh.mapWorld ({ · with input })).world :=
      ⟨⟨rfl, rfl, .refl _⟩, rfl, rfl⟩
    cases fault with
    | some cause => exact ⟨rfl, hi⟩
    | none =>
      obtain ⟨hsession, hw⟩ := takeLine_silent ahead (sh.mapWorld ({ · with input }))
      exact ⟨hsession, hi.trans hw⟩

theorem follows_shown (prompting : Bool) (text : Text) (sh : Shell) :
    sh.Follows (shown prompting text sh).1 := by
  cases prompting with
  | false => exact .refl sh
  | true =>
    have hp := World.steady_print sh.world .own [text]
    rw [shown, prompt, Source.prompting, if_pos rfl]
    generalize World.print .own [text] sh.world = r at hp
    obtain ⟨w, _ | cause⟩ := r
    · exact follows_of_steady (hp.trans (World.steady_flush w))
    · exact follows_of_steady hp

/-- Asking ends no session and no process. -/
theorem follows_asked (text : Text) (s : Shell × Source) : s.1.Follows (asked text s).1 := by
  have hs := follows_shown s.2.prompting text s.1
  rw [asked, request_eq]
  split
  · exact hs
  · obtain ⟨hsession, hw⟩ := take_silent ((prompted text s).1, s.2)
    exact hs.trans ⟨hsession, hw.steady⟩

/-- A source has its prompts shown always or never. -/
theorem prompting_take (s : Shell × Source) : (take s).1.2.prompting = s.2.prompting := by
  obtain ⟨sh, source⟩ := s
  cases source with
  | replies rs prompting =>
    rw [take_replies]
    rfl
  | memory bs => rfl
  | standard ahead =>
    unfold take
    dsimp only
    split
    · rfl
    · rfl

theorem prompting_round (run : Runner) (text : Text) (s : Shell × Source) :
    (round run text s).2.prompting = s.2.prompting := by
  have hasked : (asked text s).2.prompting = s.2.prompting := by
    rw [asked, request_eq]
    split
    · rfl
    · exact prompting_take _
  unfold round
  split
  · exact hasked
  · exact hasked

theorem prompting_rounds (run : Runner) (text : Text) (n : Nat) (s : Shell × Source) :
    (rounds run text n s).2.prompting = s.2.prompting := by
  induction n generalizing s with
  | zero => rfl
  | succ n ih => exact (ih (round run text s)).trans (prompting_round run text s)

/-- What a prompt adds to the output. -/
def promptBytes (prompting : Bool) (text : Text) : Bytes :=
  if prompting then Utf8.encode text else []

theorem shown_prints (prompting : Bool) (text : Text) (h : sh.world.Accepting) :
    (shown prompting text sh).2 = none ∧ (shown prompting text sh).1.world.Accepting ∧
      (shown prompting text sh).1.world.printed =
        sh.world.printed ++ promptBytes prompting text ∧
      (prompting = true → (shown prompting text sh).1.world.pending = []) := by
  cases prompting with
  | false => exact ⟨rfl, h, (List.append_nil _).symm, nofun⟩
  | true =>
    obtain ⟨w, he, ha, hp⟩ := World.print_prints h [text]
    obtain ⟨w', he', ha', hp', hn⟩ := World.flush_prints ha
    have hshown : shown true text sh = ({ sh with world := w' }, none) := by
      rw [shown, prompt, Source.prompting, if_pos rfl, he]
      dsimp only
      rw [he']
    rw [hshown]
    refine ⟨rfl, ha', ?_, fun _ => hn⟩
    rw [hp', hp, promptBytes, if_pos rfl, List.flatMap_singleton]

/-- Where everything is taken, all that was printed has arrived before a line is read, the prompt
at its end. -/
theorem asked_prints (text : Text) (h : s.1.world.Accepting) :
    (asked text s).1.world.Accepting ∧
      (asked text s).1.world.printed =
        s.1.world.printed ++ promptBytes s.2.prompting text ∧
      (s.2.prompting = true → (asked text s).1.world.pending = []) := by
  obtain ⟨hf, ha, hp, hn⟩ := shown_prints s.2.prompting text h
  obtain ⟨-, hw⟩ := take_silent ((prompted text s).1, s.2)
  rw [asked, request_eq, prompted, hf]
  exact ⟨hw.accepting ha, hw.printed.trans hp, fun hprompt => hw.pending.trans (hn hprompt)⟩

/-- What a line prints. -/
def printedBy (run : Runner) (line : Text) (sh : Shell) : Bytes :=
  (sh.execute run line).1.world.printed.drop sh.world.printed.length

/-- What a round prints: the prompt, and whatever the line prints that comes. -/
def printedIn (run : Runner) (text : Text) (s : Shell × Source) : Bytes :=
  promptBytes s.2.prompting text ++
    match reply text s with
    | .line line => printedBy run line (asked text s).1
    | _ => []

/-- What so many rounds print, one after another. -/
def transcript (run : Runner) (text : Text) (s : Shell × Source) (n : Nat) : Bytes :=
  (List.range n).flatMap fun i => printedIn run text (rounds run text i s)

theorem transcript_succ (n : Nat) (s : Shell × Source) :
    transcript run text s (n + 1) =
      transcript run text s n ++ printedIn run text (rounds run text n s) := by
  simp [transcript, List.range_succ]

theorem execute_prints (hr : run.Appends) (line : Text) (h : sh.world.Accepting) :
    (sh.execute run line).1.world.Accepting ∧
      (sh.execute run line).1.world.printed = sh.world.printed ++ printedBy run line sh := by
  obtain ⟨ha, hp⟩ := (course_execute run line sh).output hr h
  refine ⟨ha, ?_⟩
  rw [printedBy]
  exact (List.prefix_iff_eq_append.1 hp).symm

/-- The prompt comes out ahead of what the line prints, for it does not wait in the shell. -/
theorem round_prints (text : Text) (hr : run.Appends) (h : s.1.world.Accepting) :
    (round run text s).1.world.Accepting ∧
      (round run text s).1.world.printed = s.1.world.printed ++ printedIn run text s := by
  obtain ⟨ha, hp, -⟩ := asked_prints text h
  by_cases hline : ∃ line, reply text s = .line line
  · obtain ⟨line, hl⟩ := hline
    obtain ⟨ha', hp'⟩ := execute_prints hr line ha
    rw [round_of_line hl, printedIn, hl]
    exact ⟨ha', by rw [hp', hp, List.append_assoc]⟩
  · have hother : ∀ line, reply text s ≠ .line line := fun line hl => hline ⟨line, hl⟩
    rw [round_of_other hother]
    refine ⟨ha, ?_⟩
    rw [hp, printedIn]
    split
    · exact absurd ‹_› (hother _)
    · rw [List.append_nil]

theorem rounds_prints (text : Text) (hr : run.Appends) (n : Nat)
    (h : s.1.world.Accepting) :
    (rounds run text n s).1.world.Accepting ∧
      (rounds run text n s).1.world.printed = s.1.world.printed ++ transcript run text s n := by
  induction n with
  | zero => exact ⟨h, by simp [rounds, transcript]⟩
  | succ n ih =>
    obtain ⟨ha, hp⟩ := round_prints text hr ih.1
    rw [rounds_succ]
    refine ⟨ha, ?_⟩
    rw [hp, ih.2, transcript_succ, List.append_assoc]

theorem conclude_silent (r : Reply) (sh : Shell) : sh.world.Silent (sh.conclude r).world := by
  cases r with
  | line line => exact .refl _
  | endOfInput => exact World.silent_note _ _
  | interrupted => exact World.silent_note _ _
  | failed cause => exact .refl _

theorem ending_accepting (text : Text) (hr : run.Appends) (n : Nat)
    (h : s.1.world.Accepting) :
    (ending run text s n).1.world.Accepting := by
  cases n with
  | zero => exact h
  | succ n => exact (conclude_silent _ _).accepting (rounds_prints text hr (n + 1) h).1

theorem ending_prints (text : Text) (hr : run.Appends) (n : Nat)
    (h : s.1.world.Accepting) :
    (ending run text s n).1.world.printed = s.1.world.printed ++ transcript run text s n := by
  rw [← (rounds_prints text hr n h).2]
  cases n with
  | zero => rfl
  | succ n => exact (conclude_silent _ _).printed

theorem killedBy_of_ending_failed {k : Nat} {cause : Fault}
    (hk : ∀ i, i < k → Asks run text s i) (h : (ending run text s k).2 = some cause) :
    (ending run text s k).1.world.killedBy = none := by
  obtain ⟨i, rfl, hr⟩ := ending_failed_iff.1 h
  have hlive := (hk i (Nat.lt_succ_self i)).1 i (Nat.le_refl i)
  have hother : ∀ line, reply text (rounds run text i s) ≠ .line line := by
    intro line hl
    rw [hr] at hl
    cases hl
  rw [ending, hr, rounds_succ, round_of_other hother]
  exact (follows_asked text _).world.killedBy.trans hlive.2

end CommandShell.Shell
