import CommandShell.World.Basic
/-! What a process prints on a stream that takes everything. Printed output is what has arrived and,
behind it, what is still held back. -/
namespace CommandShell

variable {w : World} {bs : Bytes}

/-- The stream never runs out of room and never refuses. -/
def Stream.Complies (s : Stream) : Prop := s.room = none ∧ s.answers = []

theorem Stream.write_complies {s : Stream} (h : s.Complies) (bs : Bytes) :
    s.write bs = ({ s with received := s.received ++ bs }, none) := by
  obtain ⟨received, room, answers⟩ := s
  obtain ⟨rfl, rfl⟩ : room = none ∧ answers = [] := h
  cases bs with
  | nil => simp [write]
  | cons b bs => simp [write, fit, capacity, keep]

theorem Stream.flush_complies {s : Stream} (h : s.Complies) : s.flush = (s, none) := by
  simp [flush, h.2]

namespace Surroundings

/-- Output goes to a stream that takes everything. -/
def Accepting (s : Surroundings) : Prop := ∃ t, s.output = .stream t ∧ t.Complies

/-- What has arrived on the stream of the output. -/
def arrived (s : Surroundings) : Bytes :=
  match s.output with
  | .stream t => t.received
  | .file _ => []

theorem writeOutput_accepting {s : Surroundings} (h : s.Accepting) (bs : Bytes) :
    (s.writeOutput bs).2 = none ∧ (s.writeOutput bs).1.Accepting ∧
      (s.writeOutput bs).1.arrived = s.arrived ++ bs := by
  obtain ⟨t, ht, hc⟩ := h
  rw [writeOutput, ht]
  simp only [Stream.write_complies hc bs, arrived, ht]
  exact ⟨trivial, ⟨_, rfl, hc⟩, trivial⟩

theorem flushOutput_accepting {s : Surroundings} (h : s.Accepting) : s.flushOutput = (s, none) := by
  obtain ⟨t, ht, hc⟩ := h
  obtain ⟨disk, output, errors⟩ := s
  obtain rfl : output = .stream t := ht
  simp [flushOutput, Stream.flush_complies hc]

end Surroundings

namespace World

def Accepting (w : World) : Prop := w.surroundings.Accepting

def printed (w : World) : Bytes := w.surroundings.arrived ++ w.pending

/-- The bytes were written without a fault, after all that was printed before. -/
def Prints (w : World) (bs : Bytes) (r : World × Option Fault) : Prop :=
  ∃ w', r = (w', none) ∧ w'.Accepting ∧ w'.printed = w.printed ++ bs

theorem prints_nil (h : w.Accepting) : w.Prints [] (w, none) := ⟨w, rfl, h, by simp⟩

theorem prints_append {w' : World} {as : Bytes} {r : World × Option Fault}
    (ha : w'.printed = w.printed ++ as) (h : w'.Prints bs r) : w.Prints (as ++ bs) r := by
  obtain ⟨w'', hr, ha', hp⟩ := h
  exact ⟨w'', hr, ha', by rw [hp, ha, List.append_assoc]⟩

theorem release_prints (h : w.Accepting) :
    ∃ w', w.release = (w', none) ∧ w'.Accepting ∧ w'.printed = w.printed ∧ w'.pending = [] := by
  obtain ⟨hf, ha, hp⟩ := Surroundings.writeOutput_accepting h w.pending
  unfold release
  split
  · rename_i s he
    simp only [he] at ha hp
    exact ⟨_, rfl, ha, by simp [printed, hp], rfl⟩
  · rename_i s short he
    simp [he] at hf

theorem passOn_prints (h : w.Accepting) (hp : w.pending = []) (bs : Bytes) :
    w.Prints bs (w.passOn bs) := by
  obtain ⟨hf, ha, hr⟩ := Surroundings.writeOutput_accepting h bs
  exact ⟨(w.passOn bs).1, by simp [passOn, hf], ha, by simp [passOn, printed, hr, hp]⟩

theorem keepBack_prints (h : w.Accepting) (bs : Bytes) :
    w.Prints bs ({ w with pending := w.pending ++ bs }, none) :=
  ⟨_, rfl, h, by simp [printed]⟩

theorem hold_prints (h : w.Accepting) (bs : Bytes) : w.Prints bs (w.hold bs) := by
  have hr : ∃ w', (if bufferLimit < w.pending.length + bs.length then w.release else (w, none)) =
      (w', none) ∧ w'.Accepting ∧ w'.printed = w.printed ∧
        (bufferLimit ≤ bs.length → w'.pending = []) := by
    split
    · obtain ⟨w', he, ha, hp, hn⟩ := release_prints h
      exact ⟨w', he, ha, hp, fun _ => hn⟩
    · refine ⟨w, rfl, h, rfl, fun hb => ?_⟩
      have hlen : w.pending.length = 0 := by omega
      exact List.length_eq_zero_iff.1 hlen
  obtain ⟨w', he, ha, hp, hn⟩ := hr
  have hp' : w'.printed = w.printed ++ [] := by simp [hp]
  rw [hold, he]
  dsimp only
  split
  · exact prints_append hp' (passOn_prints ha (hn ‹_›) bs)
  · exact prints_append hp' (keepBack_prints ha bs)

theorem splitLines_append (bs : Bytes) : (splitLines bs).1 ++ (splitLines bs).2 = bs := by
  have hsuffix : (bs.reverse.takeWhile (· != 0x0A)).reverse <:+ bs := by
    have h := List.takeWhile_prefix (l := bs.reverse) (· != 0x0A)
    simpa using List.reverse_suffix.2 h
  obtain ⟨lines, hl⟩ := hsuffix
  have hlen := congrArg List.length hl
  simp only [List.length_append] at hlen
  have htake : bs.take (bs.length - (bs.reverse.takeWhile (· != 0x0A)).reverse.length) = lines := by
    rw [← hlen, Nat.add_sub_cancel, ← hl, List.take_left]
  rw [splitLines, htake, hl]

theorem writeOwn_prints (h : w.Accepting) (bs : Bytes) : w.Prints bs (w.writeOwn bs) := by
  have hs := splitLines_append bs
  unfold writeOwn
  split
  · rename_i tail he
    obtain rfl : tail = bs := by simpa [he] using hs
    have hr : w.Prints [] (if w.pending.getLast? = some 0x0A then w.release else (w, none)) := by
      split
      · obtain ⟨w', he, ha, hp, -⟩ := release_prints h
        exact ⟨w', he, ha, by simp [hp]⟩
      · exact prints_nil h
    obtain ⟨w', he, ha, hp⟩ := hr
    rw [he]
    exact prints_append hp (hold_prints ha tail)
  · rename_i lines tail _ he
    obtain rfl : lines ++ tail = bs := by rw [← hs, he]
    by_cases hp : w.pending.isEmpty = true
    · rw [if_pos hp]
      obtain ⟨w', he, ha, hp⟩ := passOn_prints h (List.isEmpty_iff.1 hp) lines
      rw [he]
      exact prints_append hp (hold_prints ha tail)
    · rw [if_neg hp]
      obtain ⟨w₁, he₁, ha₁, hp₁⟩ := hold_prints h lines
      obtain ⟨w₂, he₂, ha₂, hp₂, -⟩ := release_prints ha₁
      rw [he₁]
      dsimp only
      rw [he₂]
      exact prints_append (hp₂.trans hp₁) (hold_prints ha₂ tail)

/-- Nothing is held back after a flush. -/
theorem flush_prints (h : w.Accepting) :
    ∃ w', w.flush = (w', none) ∧ w'.Accepting ∧ w'.printed = w.printed ∧ w'.pending = [] := by
  obtain ⟨w', he, ha, hp, hn⟩ := release_prints h
  have hf : w'.surroundings.flushOutput = (w'.surroundings, none) :=
    Surroundings.flushOutput_accepting ha
  exact ⟨w', by simp only [flush, he, hf], ha, hp, hn⟩

theorem print_prints (h : w.Accepting) (ts : List Text) :
    w.Prints (ts.flatMap Utf8.encode) (print .own ts w) := by
  induction ts generalizing w with
  | nil => exact prints_nil h
  | cons t ts ih =>
    obtain ⟨w', he, ha, hp⟩ := writeOwn_prints h (Utf8.encode t)
    rw [print, write, he, List.flatMap_cons]
    exact prints_append hp (ih ha)

end World
end CommandShell
