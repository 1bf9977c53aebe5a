import CommandShell.Proofs.Fault.Wording
/-! What a message tells of a cause: all but the number that the system's own text ends with. A text
that is not the system's is taken for one if it has the mark of a number in it. -/
namespace CommandShell

namespace Fault

/-- Of the system's own text just the description is told. -/
theorem reason_system (e : Errno) : (system e).reason = e.description := by
  have hbracket : '(' ∉ e.description ++ [' '] := by
    intro h
    rcases List.mem_append.1 h with h | h
    · exact e.parenthesis_notMem_description h
    · exact absurd h (by decide)
  have htext : (system e).text = e.description ++ ([' '] ++ '(' :: "os error ") ++
      ((toString e.number).toList ++ [')']) := by
    rw [Fault.text, List.append_assoc]
    rfl
  rw [reason, htext]
  exact Text.before_eq_iff.2 (Text.cut_of_notMem hbracket _)

theorem reason_other_iff {text shown : Text} :
    (other text).reason = shown ↔ Text.Cut numberMark text shown := Text.before_eq_iff

end Fault

namespace Failure

theorem redirection_message_iff {command path shown : Text} {cause : Fault} :
    (redirection command path cause).message = command ++ ": " ++ path ++ ": " ++ shown ↔
      cause.reason = shown := List.append_right_inj _

theorem launch_message_iff {command shown : Text} {cause : Fault} :
    (launch command cause).message = command ++ ": " ++ shown ↔ cause.reason = shown :=
  List.append_right_inj _

/-- The message about a target or a program that could not be opened or started ends with the
description of a cause of the system's, whose text has nothing but the number after it. The text of
another cause is told in full just if the mark of a number is not in it, and otherwise up to the
first mark. -/
theorem reasons_told (command path : Text) :
    (∀ e : Errno,
      (Fault.system e).text =
          e.description ++ " (os error " ++ (toString e.number).toList ++ ")" ∧
        (redirection command path (.system e)).message =
          command ++ ": " ++ path ++ ": " ++ e.description ∧
        (launch command (.system e)).message = command ++ ": " ++ e.description) ∧
      ∀ text : Text,
        ((redirection command path (.other text)).message =
            command ++ ": " ++ path ++ ": " ++ text ↔ ¬ " (os error " <:+: text) ∧
          ((launch command (.other text)).message = command ++ ": " ++ text ↔
            ¬ " (os error " <:+: text) ∧
          ∀ shown : Text,
            ((redirection command path (.other text)).message =
                command ++ ": " ++ path ++ ": " ++ shown ↔ Text.Cut " (os error " text shown) ∧
              ((launch command (.other text)).message = command ++ ": " ++ shown ↔
                Text.Cut " (os error " text shown) := by
  have hmark : numberMark ≠ [] := by decide
  refine ⟨fun e => ⟨rfl, ?_, ?_⟩, fun text => ⟨?_, ?_, fun shown => ⟨?_, ?_⟩⟩⟩
  · exact redirection_message_iff.2 (Fault.reason_system e)
  · exact launch_message_iff.2 (Fault.reason_system e)
  · rw [redirection_message_iff, Fault.reason_other_iff]
    exact Text.cut_self_iff hmark
  · rw [launch_message_iff, Fault.reason_other_iff]
    exact Text.cut_self_iff hmark
  · exact redirection_message_iff.trans Fault.reason_other_iff
  · exact launch_message_iff.trans Fault.reason_other_iff

/-- What comes after the mark is lost, whoever put the mark there. -/
theorem reason_cut_short :
    (redirection "echo" "out" (.other "disk (os error 5) on fire")).message = "echo: out: disk" ∧
      (redirection "echo" "out" (.other "disk (os error 5) on fire")).message ≠
        "echo: out: disk (os error 5) on fire" := by
  have hcut : (redirection "echo" "out" (.other "disk (os error 5) on fire")).message =
      "echo: out: disk" := by decide
  exact ⟨hcut, fun h => absurd (hcut.symm.trans h) (by decide)⟩

end Failure
end CommandShell
