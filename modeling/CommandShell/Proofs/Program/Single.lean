import CommandShell.Proofs.Program.Ending
import CommandShell.Proofs.Session.Dispatch
import CommandShell.Proofs.Session.Frame
import CommandShell.Proofs.Session.Repl
/-! The status of a line fits into that of a process, so a program that executes one line can pass it
on as it is. -/
namespace CommandShell

variable {run : Runner}

/-- The number is that of a byte. -/
def InByte (code : Int) : Prop := 0 ≤ code ∧ code ≤ 255

instance : DecidablePred InByte := fun code => inferInstanceAs (Decidable (0 ≤ code ∧ code ≤ 255))

theorem InByte.emod {code : Int} (h : InByte code) : code % 256 = code :=
  Int.emod_eq_of_lt h.1 (by have := h.2; omega)

theorem inByte_failureStatus : InByte failureStatus := by decide

theorem inByte_notFoundStatus : InByte notFoundStatus := by decide

/-- The program ended by itself, with a code of one byte, or by a signal. -/
def WaitStatus.Ended (s : WaitStatus) : Prop :=
  (∃ n ≤ 255, s.exitCode? = some n) ∨ ∃ n, 1 ≤ n ∧ n ≤ 127 ∧ s.signal? = some n

/-- Of every program that was waited for, it is known how it ended. -/
def Runner.Ends (run : Runner) : Prop :=
  ∀ process s status, (run process s).ending = .ok status → status.Ended

theorem WaitStatus.Ended.code_inByte {s : WaitStatus} (h : s.Ended) : InByte s.code := by
  unfold InByte code
  rcases h with ⟨n, hn, he⟩ | ⟨n, hlow, hhigh, hs⟩
  · rw [he]
    dsimp only
    omega
  · have hcode : s.exitCode? = none := by
      unfold signal? at hs
      unfold exitCode?
      split at hs
      · cases hs
      · rename_i hword
        exact if_neg fun hz => hword (Or.inl hz)
    rw [hcode, hs]
    dsimp only
    omega

namespace Shell

variable {sh : Shell} {line path : Text} {l : CommandLine} {c : Command} {o : Outlets}

theorem ended_of_launched {status : WaitStatus} (hr : run.Ends)
    (h : (sh.launched run path c o).2 = .ok status) : status.Ended := by
  unfold launched World.launch at h
  split at h
  · cases h
  · exact hr _ _ _ h

theorem executeBuiltin_inByte (b : Builtin) (c : Command) (o : Outlets) (sh : Shell) :
    InByte (sh.executeBuiltin b c o).2 := by
  rw [executeBuiltin_status]
  cases hout : (sh.runBuiltin b c.arguments o.output).2 with
  | error f => exact inByte_failureStatus
  | ok code =>
    rcases runBuiltin_code hout with rfl | rfl
    · exact (by decide : InByte 0)
    · exact (by decide : InByte 1)

theorem executeProgram_inByte (hr : run.Ends) (path : Text) (c : Command) (o : Outlets)
    (sh : Shell) : InByte (sh.executeProgram run path c o).2 := by
  rw [executeProgram_eq]
  cases hl : sh.launched run path c o with
  | mk w result =>
    cases result with
    | error cause => exact inByte_failureStatus
    | ok status =>
      have hended : status.Ended := ended_of_launched hr (by rw [hl])
      exact hended.code_inByte

/-- Whatever becomes of a line, its status is a byte. -/
theorem execute_inByte (hr : run.Ends) (line : Text) (sh : Shell) :
    InByte (sh.execute run line).2 := by
  have hzero : InByte 0 := by decide
  cases hl : CommandLine.parse? line with
  | none =>
    rw [execute_blank hl]
    exact hzero
  | some l =>
    rw [execute_eq hl]
    cases sh.targets l with
    | mk w result =>
      cases result with
      | error f => exact inByte_failureStatus
      | ok o =>
        cases l.command with
        | none => exact hzero
        | some c =>
          dsimp only
          rw [executeCommand]
          split
          · exact executeBuiltin_inByte _ c o _
          · exact executeProgram_inByte hr _ c o _
          · exact inByte_notFoundStatus

/-- `exit` succeeds, whatever its arguments are. -/
theorem execute_exit (run : Runner) (h : Commands line sh l c) (hn : c.name = Builtin.exit.name) :
    (sh.execute run line).2 = 0 ∧ (sh.execute run line).1.session.exiting = true := by
  refine ⟨?_, exiting_of_asksToExit run ⟨l, c, h, hn⟩⟩
  obtain ⟨o, he⟩ := execute_of_builtin run h hn
  rw [he, executeBuiltin_status]
  rfl

/-- A line that asks the session to end succeeds. -/
theorem execute_newly_exiting (run : Runner) (line : Text) (he : sh.session.exiting = false)
    (he' : (sh.execute run line).1.session.exiting = true) : (sh.execute run line).2 = 0 := by
  by_contra hne
  rw [((framed_execute run line sh).failed hne).1, he] at he'
  cases he'

/-- A line whose targets cannot be opened has the status of a failure, whatever its command is. -/
theorem execute_unopened (run : Runner) (hl : CommandLine.parse? line = some l)
    (ho : ¬ sh.Opens l) :
    (sh.execute run line).2 = failureStatus ∧ (sh.execute run line).1.session = sh.session := by
  rw [execute_eq hl]
  cases ht : sh.targets l with
  | mk w result =>
    cases result with
    | error f => exact ⟨rfl, rfl⟩
    | ok o => exact absurd ⟨o, by rw [ht]⟩ ho

end Shell

namespace Program

variable {o : Options} {stamp line : Text} {w : World} {arguments : List Bytes} {args : List Text}

theorem session_exiting (o : Options) (stamp : Text) (w : World) :
    (session o stamp w).session.exiting = false := rfl

/-- The program ends as its line does, with what is left of the status in one byte. -/
theorem run_eq_of_command (hargs : readArguments arguments = .ok args)
    (hopts : Options.ofArguments args = .ok o) (hc : o.command = some line) :
    Program.run run stamp arguments w =
      let r := (session o stamp w).execute run line
      match r.1.world.killedBy with
      | some signal => (r.1.world, .killed signal)
      | none => (r.1.world.release.1,
          .exited (if r.1.session.exiting then success else (r.2 % 256).toNat)) := by
  unfold Program.run
  simp only [hargs, hopts, runWith, hc]
  rfl

/-- The exit status is the status of the line, unless a signal ended the program before. -/
theorem run_reports (stamp : Text) (w : World) (hr : run.Ends)
    (hargs : readArguments arguments = .ok args)
    (hopts : Options.ofArguments args = .ok o) (hc : o.command = some line) :
    (Program.run run stamp arguments w).2 =
      match ((session o stamp w).execute run line).1.world.killedBy with
      | some signal => .killed signal
      | none => .exited ((session o stamp w).execute run line).2.toNat := by
  have hbyte := Shell.execute_inByte hr line (session o stamp w)
  have hzero := Shell.execute_newly_exiting run line (session_exiting o stamp w)
  rw [run_eq_of_command hargs hopts hc]
  dsimp only
  cases ((session o stamp w).execute run line).1.world.killedBy with
  | some signal => rfl
  | none =>
    dsimp only
    split
    · rename_i he
      rw [hzero he]
      rfl
    · rw [hbyte.emod]

end Program

/-- The status of a line is a byte. It is 0 if the line asks the session to end, which `exit` does
with any arguments, unless one of the line's targets cannot be opened: then nothing is asked for, and
the status is 1. A program that executes this line only has the same exit status, which loses nothing
of it, unless a signal ends the program before. -/
theorem single_command_status (run : Runner) (hr : run.Ends) :
    (∀ line sh, InByte (Shell.execute run line sh).2 ∧
      (Shell.execute run line sh).2 % 256 = (Shell.execute run line sh).2 ∧
      (sh.session.exiting = false → (Shell.execute run line sh).1.session.exiting = true →
        (Shell.execute run line sh).2 = 0) ∧
      ∀ l c, CommandLine.parse? line = some l → l.command = some c → c.name = Builtin.exit.name →
        (sh.Opens l → (Shell.execute run line sh).2 = 0 ∧
          (Shell.execute run line sh).1.session.exiting = true) ∧
        (¬ sh.Opens l → (Shell.execute run line sh).2 = 1 ∧
          (Shell.execute run line sh).1.session = sh.session)) ∧
    ∀ stamp arguments w args o line, Program.readArguments arguments = .ok args →
      Options.ofArguments args = .ok o → o.command = some line →
      ((Shell.execute run line (Program.session o stamp w)).1.world.killedBy = none →
        ∃ n, (Program.run run stamp arguments w).2.exitCode? = some n ∧
          (n : Int) = (Shell.execute run line (Program.session o stamp w)).2) ∧
      ∀ signal, (Shell.execute run line (Program.session o stamp w)).1.world.killedBy = some signal →
        (Program.run run stamp arguments w).2 = .killed signal := by
  refine ⟨fun line sh => ?_, fun stamp arguments w args o line hargs hopts hc => ?_⟩
  · have hbyte := Shell.execute_inByte hr line sh
    refine ⟨hbyte, hbyte.emod, Shell.execute_newly_exiting run line, fun l c hl hc hn => ⟨?_, ?_⟩⟩
    · exact fun ho => Shell.execute_exit run ⟨hl, hc, ho⟩ hn
    · exact Shell.execute_unopened run hl
  · have hends := Program.run_reports stamp w hr hargs hopts hc
    obtain ⟨hlow, hhigh⟩ := Shell.execute_inByte hr line (Program.session o stamp w)
    refine ⟨fun hk => ⟨_, ?_, Int.toNat_of_nonneg hlow⟩, fun signal hk => ?_⟩
    · rw [hends, hk]
      dsimp only
      rw [WaitStatus.exitCode?_exited, Nat.mod_eq_of_lt (by omega)]
    · rw [hends, hk]

/-- Programs that read nothing, print nothing and are killed. -/
def killedRunner : Runner := fun process s => ⟨s, process.input, .ok (.killed 9), []⟩

theorem killedRunner_ends : killedRunner.Ends := by
  rintro process s status ⟨⟩
  exact Or.inr ⟨9, by decide, by decide, by decide⟩

/-- The arguments of a program that is to execute this line. -/
def singleCommand (line : Text) : List Bytes := [Utf8.encode "-c".toList, Utf8.encode line]

theorem single_command_killed :
    killedRunner.Ends ∧ Program.readArguments (singleCommand "dash") = .ok ["-c", "dash"] ∧
      Options.ofArguments ["-c", "dash"] = .ok ⟨defaultPrompt, some "dash", .off, none⟩ ∧
      (Program.run killedRunner [] (singleCommand "dash")
        (Shell.sampleWorld (.bytes []))).2.exitCode? = some 137 := by
  have hargs : Program.readArguments (singleCommand "dash") = .ok ["-c", "dash"] := by
    decide +kernel
  have hopts : Options.ofArguments ["-c", "dash"] =
      .ok ⟨defaultPrompt, some "dash", .off, none⟩ := by decide +kernel
  obtain ⟨-, hprogram⟩ := single_command_status killedRunner killedRunner_ends
  obtain ⟨hexits, -⟩ := hprogram [] _ (Shell.sampleWorld (.bytes [])) _ _ "dash" hargs hopts rfl
  obtain ⟨n, hcode, hn⟩ := hexits (by decide +kernel)
  have hstatus : (Shell.execute killedRunner "dash" (Program.session
      ⟨defaultPrompt, some "dash", .off, none⟩ [] (Shell.sampleWorld (.bytes [])))).2 = 137 := by
    decide +kernel
  have hn' : n = 137 := Int.ofNat.inj (hn.trans hstatus)
  exact ⟨killedRunner_ends, hargs, hopts, hn' ▸ hcode⟩

/-- An `exit` whose output has nowhere to go is not run. -/
theorem single_exit_refused :
    idleRunner.Ends ∧ CommandLine.parse? "exit > nowhere/b" =
        some ⟨some ⟨Builtin.exit.name, []⟩, [(standardOutput, "nowhere/b")]⟩ ∧
      (Shell.execute idleRunner "exit > nowhere/b" Shell.sampleShell).2 = 1 ∧
      (Program.run idleRunner [] (singleCommand "exit > nowhere/b")
        (Shell.sampleWorld (.bytes []))).2.exitCode? = some 1 := by
  have hends : idleRunner.Ends := by
    intro process s status h
    have hstatus : WaitStatus.exited 0 = status := Except.ok.inj h
    rw [← hstatus]
    exact Or.inl ⟨0, by decide, WaitStatus.exitCode?_exited 0⟩
  exact ⟨hends, by decide +kernel, by decide +kernel, by decide +kernel⟩

end CommandShell
