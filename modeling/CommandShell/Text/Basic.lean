/-! Text is a list of characters, raw data a list of bytes. -/
namespace CommandShell

abbrev Text := List Char

abbrev Bytes := List UInt8

instance : Coe String Text := ⟨String.toList⟩

/-- The items joined into one text, with `gap` between neighbours. -/
def Text.join (gap : Text) (items : List Text) : Text :=
  gap.intercalate items

/-- Between two separators there is none. -/
theorem Text.notMem_of_mem_splitOn {α : Type} [BEq α] [LawfulBEq α] {a : α} {xs piece : List α}
    (h : piece ∈ xs.splitOn a) : a ∉ piece := by
  by_cases hxs : a ∈ xs
  · obtain ⟨as, bs, rfl, has⟩ := List.eq_append_cons_of_mem hxs
    rw [List.splitOn_append_cons_self_of_not_mem has] at h
    rcases List.mem_cons.1 h with rfl | h
    · exact has
    · exact notMem_of_mem_splitOn h
  · rw [List.splitOn_eq_singleton hxs, List.mem_singleton] at h
    rwa [h]
termination_by xs.length

end CommandShell
