import CommandShell.Fault.Failure
import CommandShell.Proofs.Text.Cut
/-! The messages about failures are lines: nothing that the system says of a cause breaks one off. -/
namespace CommandShell

variable {c : Char} {t u : Text}

theorem getLast?_append_ne (t : Text) (hu : u ≠ []) (hc : c ∉ u) : (t ++ u).getLast? ≠ some c := by
  rw [List.getLast?_append, Option.or_of_isSome (List.getLast?_isSome.2 hu)]
  exact fun h => hc (List.mem_of_getLast? h)

theorem isDigit_of_mem_digits {n : Nat} (h : c ∈ (toString n).toList) : c.isDigit = true := by
  rw [Nat.toString_eq_ofList_toDigits, String.toList_ofList] at h
  exact Nat.isDigit_of_mem_toDigits (by decide) (by decide) h

theorem isDigit_of_mem_number {n : Int} (h : c ∈ (toString n).toList) :
    c = '-' ∨ c.isDigit = true := by
  cases n with
  | ofNat n => exact Or.inr (isDigit_of_mem_digits h)
  | negSucc n =>
    have hrepr : toString (Int.negSucc n) = "-" ++ toString (n + 1) := rfl
    rw [hrepr, String.toList_append] at h
    rcases List.mem_append.1 h with h | h
    · exact Or.inl (List.mem_singleton.1 h)
    · exact Or.inr (isDigit_of_mem_digits h)

theorem mem_bytes {b : UInt8} {s : String} (hb : b ∈ String.utf8EncodeChar c) (h : c ∈ s.toList) :
    b ∈ s.toByteArray.data.toList := by
  rw [← String.ofList_toList (s := s), String.toByteArray_ofList, List.utf8Encode,
    List.toList_data_toByteArray]
  exact List.mem_flatMap.2 ⟨c, h, hb⟩

namespace Errno

/-- No known description has a newline or a bracket. To look at the bytes takes a fraction of the
time that the characters do. -/
theorem notMem_descriptions : ∀ d ∈ descriptions,
    10 ∉ d.2.toByteArray.data.toList ∧ 40 ∉ d.2.toByteArray.data.toList := by
  decide +kernel

/-- A character that is in no known description and in no number is in no description at all. -/
theorem notMem_description {b : UInt8} (hb : b ∈ String.utf8EncodeChar c)
    (hknown : ∀ d ∈ descriptions, b ∉ d.2.toByteArray.data.toList)
    (hunknown : c ∉ ("Unknown error -" : Text)) (hdigit : c.isDigit = false) (e : Errno) :
    c ∉ e.description := by
  have hnumbered : ∀ n : Int, c ∉ ("Unknown error " : Text) ++ (toString n).toList := by
    intro n h
    rcases List.mem_append.1 h with h | h
    · exact hunknown (List.mem_append_left ['-'] h)
    · rcases isDigit_of_mem_number h with rfl | h
      · exact hunknown (by decide)
      · exact Bool.false_ne_true (hdigit.symm.trans h)
  unfold description
  split
  · rename_i n _
    split
    · rename_i d hd
      obtain ⟨before, after, hsplit, -⟩ := List.lookup_eq_some_iff.1 hd
      have hmem : (n, d) ∈ descriptions := by
        rw [hsplit]
        exact List.mem_append_right _ (List.mem_cons_self ..)
      exact fun h => hknown (n, d) hmem (mem_bytes hb h)
    · exact hnumbered (Int.ofNat n)
  · exact hnumbered _

theorem newline_notMem_description (e : Errno) : '\n' ∉ e.description :=
  e.notMem_description (by decide) (fun d hd => (notMem_descriptions d hd).1) (by decide) rfl

theorem parenthesis_notMem_description (e : Errno) : '(' ∉ e.description :=
  e.notMem_description (by decide) (fun d hd => (notMem_descriptions d hd).2) (by decide) rfl

end Errno

namespace Fault

/-- The cause is the system's, or its text has no newline. -/
def OneLine (cause : Fault) : Prop := ∀ reason, cause = .other reason → '\n' ∉ reason

theorem OneLine.text {cause : Fault} (h : cause.OneLine) : '\n' ∉ cause.text := by
  cases cause with
  | other reason => exact h reason rfl
  | system e =>
    unfold Fault.text
    simp only [List.mem_append, not_or]
    refine ⟨⟨⟨e.newline_notMem_description, by decide⟩, fun h => ?_⟩, by decide⟩
    rcases isDigit_of_mem_number h with h | h
    · exact absurd h (by decide)
    · exact absurd h (by decide)

theorem OneLine.reason {cause : Fault} (h : cause.OneLine) : '\n' ∉ cause.reason :=
  fun hmem => h.text ((Text.prefix_of_cut (Text.cut_before _ _)).subset hmem)

end Fault

namespace Failure

/-- The cause that a message tells of. -/
def cause? : Failure → Option Fault
  | redirection _ _ cause | launch _ cause | output _ cause => some cause
  | _ => none

/-- No message ends with a newline, unless with one of its cause. -/
theorem message_getLast? (f : Failure) (h : ∀ cause, f.cause? = some cause → cause.OneLine) :
    f.message.getLast? ≠ some '\n' := by
  have hmark : '\n' ∉ (": " : Text) := by decide
  have hcaused : ∀ (t u : Text), '\n' ∉ u → (t ++ ": " ++ u).getLast? ≠ some '\n' := by
    intro t u hu
    rw [List.append_assoc]
    refine getLast?_append_ne t (List.append_ne_nil_of_left_ne_nil (by decide) _) fun hmem => ?_
    exact (List.mem_append.1 hmem).elim hmark hu
  cases f with
  | commandNotFound name => exact getLast?_append_ne name (by decide) (by decide)
  | missingOperand name => exact getLast?_append_ne name (by decide) (by decide)
  | noSuchDirectory path => exact getLast?_append_ne _ (by decide) (by decide)
  | redirection command path cause => exact hcaused _ _ (h cause rfl).reason
  | launch command cause => exact hcaused command _ (h cause rfl).reason
  | output command cause => exact hcaused command _ (h cause rfl).text

end Failure
end CommandShell
