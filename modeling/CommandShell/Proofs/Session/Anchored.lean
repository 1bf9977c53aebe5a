import CommandShell.Disk.Placement
import CommandShell.Program
import CommandShell.Proofs.Disk.Names
import CommandShell.Proofs.Path.Landing
import CommandShell.Proofs.Program.Variables
import CommandShell.Proofs.Session.Act
import CommandShell.Proofs.Session.Candidates
/-! The directory of a session and that of its process stay one and the same. -/
namespace CommandShell

variable {run : Runner} {sh sh' : Shell} {s : Session} {arg path : Text}

/-- Home is nowhere, or at an absolute path. -/
def Session.HomeAbsolute (s : Session) : Prop := ∀ h, s.home? = some h → Path.isAbsolute h = true

namespace Shell

/-- The session's directory is an absolute path without dots that names the place of the process. -/
structure Anchored (sh : Shell) : Prop where
  absolute : Path.isAbsolute sh.session.currentDir = true
  dotless : Path.Dotless sh.session.currentDir
  names : sh.world.disk.Names sh.session.currentDir sh.world.cwd

/-- What is found at a path, and what is started, is the same from the session's directory as from
the place of the process. -/
structure OneDirectory (sh : Shell) : Prop where
  /-- Whatever is opened, looked up or entered at a relative path. -/
  located : ∀ (purpose : Purpose) (t : Text) (r : Reached), t ≠ [] → Path.isAbsolute t = false →
    sh.world.disk.locate sh.world.cwd purpose (Path.join sh.session.currentDir t) = .ok r →
      sh.world.disk.locate sh.world.cwd purpose t = .ok r
  /-- Failures are the same too, but for the links and the permissions on the way to the place. -/
  walked : ∃ n, n ≤ linkLimit ∧ ∀ (user : Place) (purpose : Purpose) (t : Text),
    t ≠ [] → Path.isAbsolute t = false →
      let steps := Path.segments (Path.join sh.session.currentDir t)
      sh.world.disk.walk user purpose linkLimit [] steps =
          sh.world.disk.walk user purpose (linkLimit - n) sh.world.cwd.location (Path.segments t) ∨
        Disk.Barred user (sh.world.disk.walk user purpose linkLimit [] steps)
  /-- Names with a slash and relative directories of the search path stand for such paths. -/
  programs : ∀ search name : Text,
    findProgram? sh.world.disk sh.world.cwd search name sh.session.currentDir =
        (candidates search name sh.session.currentDir).find?
          (sh.world.disk.isExecutable sh.world.cwd) ∧
      candidates search name sh.session.currentDir =
        (candidates search name []).map (Path.join sh.session.currentDir) ∧
      [] ∉ candidates search name []
  /-- Programs start where the process stands. -/
  started : ∀ (l : Launch) (writing : List Nat) (inherited : Environment) (input : Intake)
    (process : Process), l.directory = sh.session.currentDir →
      l.start sh.world.disk sh.world.cwd writing inherited input = .ok process →
        process.directory.location = sh.world.cwd.location ∧
          process.directory.serials.head? = sh.world.cwd.serials.head?

/-- One shell comes out of another by these lines and by work of its own between them, while no
line disturbs a directory or a link. -/
inductive Peaceful (run : Runner) (sh : Shell) : List Text → Shell → Prop
  | start : Peaceful run sh [] sh
  | work {lines : List Text} {mid mid' : Shell} (h : Peaceful run sh lines mid)
      (hf : mid.Follows mid') : Peaceful run sh lines mid'
  | line {lines : List Text} {mid : Shell} {line : Text} (h : Peaceful run sh lines mid)
      (hu : mid.world.disk.Undisturbed (mid.execute run line).1.world.disk) :
      Peaceful run sh (lines ++ [line]) (mid.execute run line).1

theorem isAbsolute_target (hs : Path.isAbsolute s.currentDir = true) (hh : s.HomeAbsolute)
    (h : target? s arg = some path) : Path.isAbsolute path = true := by
  unfold target? at h
  split at h
  · exact hh path h
  · rename_i rest
    obtain ⟨home, hhome, rfl⟩ := Option.map_eq_some_iff.1 h
    exact Path.isAbsolute_join (hh home hhome) rest
  · cases h
    split
    · assumption
    · exact Path.isAbsolute_join hs arg

theorem Anchored.undisturbed (h : sh.Anchored)
    (hs : sh'.session.currentDir = sh.session.currentDir) (hc : sh'.world.cwd = sh.world.cwd)
    (hu : sh.world.disk.Undisturbed sh'.world.disk) : sh'.Anchored := by
  refine ⟨?_, ?_, ?_⟩
  · rw [hs]
    exact h.absolute
  · rw [hs]
    exact h.dotless
  · rw [hs, hc]
    exact h.names.undisturbed hu

theorem Anchored.follows (h : sh.Anchored) (hf : sh.Follows sh') : sh'.Anchored := by
  have hs : sh'.session.currentDir = sh.session.currentDir := by rw [hf.session]
  exact h.undisturbed hs hf.world.cwd hf.world.entries.undisturbed

/-- A line either moves both directories or none. -/
theorem Anchored.execute {line : Text} (h : sh.Anchored) (hh : sh.session.HomeAbsolute)
    (hu : sh.world.disk.Undisturbed (sh.execute run line).1.world.disk) :
    (sh.execute run line).1.Anchored ∧ (sh.execute run line).1.session.HomeAbsolute := by
  obtain ⟨before, between, hb, hact, hf⟩ := course_execute run line sh
  have hvars : ∀ {t t' : Shell}, t'.session.vars = t.session.vars →
      t.session.HomeAbsolute → t'.session.HomeAbsolute := by
    intro t t' he ht home hhome
    refine ht home ?_
    rw [← hhome, Session.home?, Session.home?, he]
  have hstill : between.session.currentDir = before.session.currentDir →
      between.world.cwd = before.world.cwd → (sh.execute run line).1.Anchored := by
    intro hs hc
    refine h.undisturbed ?_ ?_ hu
    · rw [hf.session, hs, hb.session]
    · rw [hf.world.cwd, hc, hb.world.cwd]
  cases hact with
  | idle =>
    exact ⟨hstill rfl rfl, hvars (by rw [hf.session, hb.session]) hh⟩
  | exit =>
    exact ⟨hstill rfl rfl, hvars (by rw [hf.session, hb.session]) hh⟩
  | launch process hp =>
    have hc := (before.world.resume_spec (run process before.world.surroundings)).2.2.1
    exact ⟨hstill rfl hc, hvars (by rw [hf.session, hb.session]) hh⟩
  | enter ht hd he =>
    refine ⟨Anchored.follows ?_ hf, hvars (by rw [hf.session, hb.session]) hh⟩
    have habs : Path.isAbsolute before.session.currentDir = true := by
      rw [hb.session]
      exact h.absolute
    have hhome : before.session.HomeAbsolute := by
      rw [hb.session]
      exact hh
    have htarget := isAbsolute_target habs hhome ht
    exact ⟨Path.isAbsolute_normalize htarget, Path.dotless_normalize htarget,
      Disk.names_of_enter (Path.isAbsolute_normalize htarget) he⟩

theorem candidates_join (search name dir : Text) :
    candidates search name dir = (candidates search name []).map (Path.join dir) := by
  rw [candidates_eq, candidates_eq]
  split
  · rfl
  · split
    · rw [Path.join_nil_left]
      rfl
    · rename_i hname hslash
      rw [List.map_map]
      refine List.map_congr_left fun d hmem => ?_
      have hne : d ≠ [] := by
        have hfilter := (List.mem_filter.1 hmem).2
        rintro rfl
        cases hfilter
      have hn : Path.isAbsolute name = false := by
        cases name with
        | nil => rfl
        | cons c name =>
          refine decide_eq_false fun hc => hslash ?_
          obtain rfl : c = '/' := by simpa using hc
          exact List.mem_cons_self
      rw [Function.comp_apply, Path.join_nil_left]
      cases hr : Path.isAbsolute d with
      | false => exact Path.join_assoc hne hr hn
      | true =>
        have hj : Path.join dir d = d := by rw [Path.join_eq, if_pos hr]
        have hj' : Path.join dir (Path.join d name) = Path.join d name := by
          rw [Path.join_eq, if_pos (Path.isAbsolute_join hr name)]
        rw [hj, hj']

theorem nil_notMem_candidates (search name : Text) : [] ∉ candidates search name [] := by
  rw [candidates_eq]
  split
  · exact List.not_mem_nil
  · rename_i hname
    split
    · rw [Path.join_nil_left]
      intro hmem
      exact hname (List.mem_singleton.1 hmem).symm
    · intro hmem
      obtain ⟨d, -, he⟩ := List.mem_map.1 hmem
      exact hname (Path.eq_nil_of_join he)

theorem Anchored.oneDirectory (h : sh.Anchored) : sh.OneDirectory := by
  have hne : sh.session.currentDir ≠ [] := by
    intro hnil
    have habs := h.absolute
    rw [hnil] at habs
    cases habs
  refine ⟨?_, h.names.walk_join hne, ?_, ?_⟩
  · intro purpose t r ht hr hl
    exact h.names.locate_of_join h.absolute ht hr hl
  · intro search name
    exact ⟨findProgram?_eq .., candidates_join search name _, nil_notMem_candidates search name⟩
  · intro l writing inherited input process hdir hstart
    have he := (Launch.start_spec hstart).1
    rw [hdir] at he
    exact (Disk.names_of_enter h.absolute he).unique h.names

theorem Anchored.peaceful {lines : List Text} (h : sh.Anchored) (hh : sh.session.HomeAbsolute)
    (hp : Peaceful run sh lines sh') : sh'.Anchored ∧ sh'.session.HomeAbsolute := by
  induction hp with
  | start => exact ⟨h, hh⟩
  | work hp hf ih =>
    refine ⟨ih.1.follows hf, ?_⟩
    rw [hf.session]
    exact ih.2
  | line hp hu ih => exact ih.1.execute ih.2 hu

/-- However many lines there were, and whatever the shell has done since, the session's directory
still names the place of the process. -/
theorem anchored_after_lines (run : Runner) (sh sh' : Shell) (lines : List Text) (h : sh.Anchored)
    (hh : sh.session.HomeAbsolute) (hp : Peaceful run sh lines sh') :
    sh'.Anchored ∧ sh'.OneDirectory := by
  have ha := (h.peaceful hh hp).1
  exact ⟨ha, ha.oneDirectory⟩

/-- At the root, where one of the names is a link. -/
def visitor : Shell :=
  Session.inherit "/" (.fresh .standard (Disk.standard.place [])
    [(Utf8.encode "HOME".toList, Utf8.encode "/tmp".toList),
      (Utf8.encode "PATH".toList, Utf8.encode "bin".toList)] (.bytes []))

def itinerary : List Text := ["cd ~", "cd ../bin", "cd nowhere", "dash > notes"]

def visits : Nat → Shell
  | 0 => visitor
  | n + 1 => ((visits n).execute idleRunner (itinerary.getD n [])).1

theorem anchored_visitor : visitor.Anchored := by
  have hroot : visitor.world.disk.IsDirectoryAt [] :=
    ⟨⟨1, directoryMode, .directory⟩, by decide +kernel, by decide⟩
  have hl : visitor.world.disk.Leads 0 [] [[], []] [] :=
    .stay hroot (Or.inl rfl) (.stay hroot (Or.inl rfl) (.done []))
  have hh : visitor.world.disk.holds visitor.world.cwd = true := by decide +kernel
  exact ⟨by decide +kernel, by decide +kernel,
    Disk.names_of_leads hl (Nat.zero_le _) hh hroot⟩

theorem homeAbsolute_visitor : visitor.session.HomeAbsolute := by
  intro h hh
  have hhome : visitor.session.home? = some "/tmp" := by decide +kernel
  rw [hhome] at hh
  cases hh
  decide

/-- One of the lines makes a file, none does more. -/
theorem undisturbed_visits {n : Nat} (hn : n < 4) :
    (visits n).world.disk.Undisturbed (visits (n + 1)).world.disk := by
  apply Disk.undisturbed_of_entries
  have h : n = 0 ∨ n = 1 ∨ n = 2 ∨ n = 3 := by omega
  rcases h with rfl | rfl | rfl | rfl <;> decide +kernel

theorem peaceful_visits {n : Nat} (hn : n ≤ 4) :
    Peaceful idleRunner visitor (itinerary.take n) (visits n) := by
  induction n with
  | zero => exact .start
  | succ n ih =>
    have htake : itinerary.take (n + 1) = itinerary.take n ++ [itinerary.getD n []] := by
      have h : n = 0 ∨ n = 1 ∨ n = 2 ∨ n = 3 := by omega
      rcases h with rfl | rfl | rfl | rfl <;> decide +kernel
    rw [htake, visits]
    exact .line (ih (by omega)) (undisturbed_visits (by omega))

theorem anchored_after_visits :
    visitor.Anchored ∧ visitor.session.HomeAbsolute ∧
      Peaceful idleRunner visitor itinerary (visits 4) ∧
      (visits 4).Anchored ∧ (visits 4).OneDirectory ∧
      (visits 4).session.currentDir = "/bin" ∧
      (visits 4).world.cwd.location = ["bin".toList, "usr".toList] := by
  have hp : Peaceful idleRunner visitor itinerary (visits 4) := peaceful_visits (Nat.le_refl 4)
  obtain ⟨ha, ho⟩ := anchored_after_lines idleRunner visitor (visits 4) itinerary anchored_visitor
    homeAbsolute_visitor hp
  exact ⟨anchored_visitor, homeAbsolute_visitor, hp, ha, ho, by decide +kernel, by decide +kernel⟩

end Shell
end CommandShell
