import CommandShell.Proofs.Session.Anchored
import CommandShell.Proofs.Session.Turn
/-! A session stays in the directory that it entered: its path still stands for it. -/
namespace CommandShell.Shell

variable {run : Runner} {sh mid later : Shell} {s s' : Session} {line dot arg path : Text}
  {lines : List Text} {place : Place} {d d' : Disk}

/-- The command of the line is `cd`, and this is its first argument. -/
def AsksFor (line arg : Text) : Prop :=
  ∃ l c rest, CommandLine.parse? line = some l ∧ l.command = some c ∧ c.name = Builtin.cd.name ∧
    c.arguments = arg :: rest

/-- Besides, nothing is redirected. -/
def AsksPlainlyFor (line arg : Text) : Prop :=
  ∃ c rest, CommandLine.parse? line = some ⟨some c, []⟩ ∧ c.name = Builtin.cd.name ∧
    c.arguments = arg :: rest

/-- The argument means a directory by way of the home. -/
def ByHome (arg : Text) : Prop := arg = ['~'] ∨ ['~', '/'] <+: arg

/-- The home is nowhere or at an absolute path, or no line goes by way of it. -/
def HomeServes (s : Session) (lines : List Text) : Prop :=
  s.HomeAbsolute ∨ ∀ line ∈ lines, ∀ arg, AsksFor line arg → ¬ ByHome arg

/-- The lines were executed one after another, and between them the world became whatever it may. -/
inductive WentThrough (run : Runner) (sh : Shell) : List Text → Shell → Prop
  | start : WentThrough run sh [] sh
  | meanwhile {lines : List Text} {mid mid' : Shell} (h : WentThrough run sh lines mid)
      (hs : mid'.session = mid.session) : WentThrough run sh lines mid'
  | line {lines : List Text} {mid : Shell} (h : WentThrough run sh lines mid) (line : Text) :
      WentThrough run sh (lines ++ [line]) (mid.execute run line).1

theorem HomeServes.congr (hv : s'.vars = s.vars) (h : HomeServes s lines) :
    HomeServes s' lines := by
  refine h.imp_left fun h home hhome => h home ?_
  rw [← hhome, Session.home?, Session.home?, hv]

theorem HomeServes.of_subset {before : List Text} (hsub : before ⊆ lines)
    (h : HomeServes s lines) : HomeServes s before :=
  h.imp_right fun h asked hm => h asked (hsub hm)

theorem isAbsolute_of_homeServes (hs : Path.isAbsolute s.currentDir = true)
    (hh : HomeServes s [line]) (ha : AsksFor line arg) (h : target? s arg = some path) :
    Path.isAbsolute path = true := by
  rcases hh with hh | hno
  · exact isAbsolute_target hs hh h
  · have hb := hno line (List.mem_singleton_self line) arg ha
    unfold target? at h
    split at h
    · exact absurd (Or.inl rfl) hb
    · exact absurd (Or.inr ⟨_, rfl⟩) hb
    · cases h
      split
      · assumption
      · exact Path.isAbsolute_join hs arg

/-- The path of a session stays absolute where the home serves. -/
theorem absolute_execute (run : Runner) (h : Path.isAbsolute sh.session.currentDir = true)
    (hh : HomeServes sh.session [line]) :
    Path.isAbsolute (sh.execute run line).1.session.currentDir = true ∧
      (sh.execute run line).1.session.vars = sh.session.vars := by
  have hturn := execute_turn run line sh
  generalize sh.execute run line = r at hturn ⊢
  cases hturn with
  | still hstill =>
    rw [hstill.session]
    exact ⟨h, rfl⟩
  | exit hc hn hs hw hr =>
    rw [hs]
    exact ⟨h, rfl⟩
  | enter hc hn ha he hs hd hr =>
    obtain ⟨t, ht, rfl, -⟩ := he
    rw [hs]
    refine ⟨Path.isAbsolute_normalize (isAbsolute_of_homeServes h hh ?_ ht), rfl⟩
    exact ⟨_, _, _, hc.parsed, hc.command, hn, ha⟩

theorem WentThrough.absolute (h : WentThrough run sh lines mid)
    (ha : Path.isAbsolute sh.session.currentDir = true) (hh : HomeServes sh.session lines) :
    Path.isAbsolute mid.session.currentDir = true ∧ mid.session.vars = sh.session.vars := by
  induction h with
  | start => exact ⟨ha, rfl⟩
  | meanwhile h hs ih =>
    rw [hs]
    exact ih hh
  | line h line ih =>
    obtain ⟨habs, hvars⟩ := ih (hh.of_subset (List.subset_append_left _ _))
    have hline := (hh.of_subset (List.subset_append_right _ _)).congr hvars
    obtain ⟨habs', hvars'⟩ := absolute_execute run habs hline
    exact ⟨habs', hvars'.trans hvars⟩

/-- With status 0, `cd` has entered a directory that is still there. -/
theorem reaches_of_asksFor (hv : AsksFor line arg) (hz : (sh.execute run line).2 = 0) :
    ∃ d path place, Reaches d sh arg path place ∧
      (sh.execute run line).1.session.currentDir = path ∧
      (sh.execute run line).1.world.cwd = place ∧
      d.Extends (sh.execute run line).1.world.disk := by
  obtain ⟨l, c, rest, hl, hc, hn, ha⟩ := hv
  have hopens : sh.Opens l := by
    cases ht : sh.targets l with
    | mk w result =>
      cases result with
      | ok o => exact ⟨o, by rw [ht]⟩
      | error f =>
        rw [execute_eq hl, ht] at hz
        cases hz
  rcases execute_cd run ⟨hl, hc, hopens⟩ hn ha with ⟨-, hfail, -⟩ | ⟨path, place, hr, -, hs, hw, hd⟩
  · rw [hz] at hfail
    cases hfail
  · exact ⟨_, path, place, hr, by rw [hs], hw, hd⟩

/-- Whoever entered a directory along an absolute path can enter it again from within. -/
theorem Enterable.again {user : Place} (h : Enterable d user path place)
    (ha : Path.isAbsolute path = true) (hd : d.Extends d') : Enterable d' place path place := by
  obtain ⟨e, he⟩ := Disk.entered_of_enter ha h.entered
  have hagain := he.again ha hd
  refine ⟨?_, hagain.enter⟩
  rw [Disk.isDirectory, hagain.find]
  exact hagain.isDirectory

theorem targets_plain {c : Command} (sh : Shell) :
    sh.targets ⟨some c, []⟩ = (sh.world.note (.parsed ⟨some c, []⟩), .ok {}) := rfl

/-- Where the path of a session is that of its place, a dot moves nothing. -/
theorem execute_dot (run : Runner) (hdot : AsksPlainlyFor dot ['.'])
    (hn : later.session.currentDir = Path.normalize path) (ha : Path.isAbsolute path = true)
    (he : Enterable d place (Path.normalize path) later.world.cwd)
    (hd : d.Extends later.world.disk) :
    (later.execute run dot).2 = 0 ∧ later.Still (later.execute run dot).1 := by
  obtain ⟨c, rest, hl, hname, hargs⟩ := hdot
  have hnorm : Path.isAbsolute (Path.normalize path) = true := Path.isAbsolute_normalize ha
  have hnoted : later.world.disk.Extends (later.targets ⟨some c, []⟩).1.disk := by
    rw [targets_plain]
    exact (World.silent_note later.world _).entries
  have hsame : Path.normalize (Path.join later.session.currentDir ['.']) = Path.normalize path := by
    rw [hn]
    exact Path.normalize_join_dot ha
  have hagain : Enterable (later.targets ⟨some c, []⟩).1.disk later.world.cwd
      (Path.normalize path) later.world.cwd := he.again hnorm (hd.trans hnoted)
  have hreach : Reaches (later.targets ⟨some c, []⟩).1.disk later ['.'] (Path.normalize path)
      later.world.cwd := ⟨_, rfl, hsame.symm, hagain⟩
  have hcommands : Commands dot later ⟨some c, []⟩ c := ⟨hl, rfl, _, rfl⟩
  rcases execute_cd run hcommands hname hargs with ⟨-, -, hno⟩ | ⟨path', place', hr, hz, hs, hw, -⟩
  · exact absurd hreach (hno _ _)
  · obtain ⟨t, ht, rfl, he'⟩ := hr
    cases ht
    rw [if_neg (by decide), hsame] at hs he'
    have hplace : place' = later.world.cwd := by
      have := he'.entered.symm.trans hagain.entered
      exact Except.ok.inj this
    refine ⟨hz, ?_, ?_⟩
    · rw [hs, ← hn]
    · rw [hw, hplace]

/-- A `cd` that succeeds is for good where it leaves an absolute path: a dot leads to the directory
that the session entered, as long as the disk keeps what is on it. The path is absolute unless the
session went by way of a home at a relative path. -/
theorem dot_stays (run : Runner) (sh mid : Shell) (lines : List Text) (line arg : Text)
    (ha : Path.isAbsolute sh.session.currentDir = true) (hm : WentThrough run sh lines mid)
    (hv : AsksFor line arg) (hz : (mid.execute run line).2 = 0) :
    (HomeServes sh.session (lines ++ [line]) →
      Path.isAbsolute (mid.execute run line).1.session.currentDir = true) ∧
    (Path.isAbsolute (mid.execute run line).1.session.currentDir = true →
      ∀ later dot, (mid.execute run line).1.Still later →
        (mid.execute run line).1.world.disk.Extends later.world.disk →
        AsksPlainlyFor dot ['.'] →
        (later.execute run dot).2 = 0 ∧ later.Still (later.execute run dot).1) := by
  refine ⟨fun hh => ?_, fun habs later dot hs hd hdot => ?_⟩
  · obtain ⟨habs, hvars⟩ := hm.absolute ha (hh.of_subset (List.subset_append_left _ _))
    have hline := (hh.of_subset (List.subset_append_right _ _)).congr hvars
    exact (absolute_execute run habs hline).1
  · obtain ⟨d, path, place, ⟨t, -, rfl, he⟩, hdir, hcwd, hkept⟩ := reaches_of_asksFor hv hz
    have hnamed : later.session.currentDir = Path.normalize t := by rw [hs.session, hdir]
    have htarget : Path.isAbsolute t = true := by
      rw [← Path.isAbsolute_normalize_eq, ← hdir]
      exact habs
    have hentered : Enterable d mid.world.cwd (Path.normalize t) later.world.cwd := by
      rw [hs.cwd, hcwd]
      exact he
    exact execute_dot run hdot hnamed htarget hentered (hkept.trans hd)

/-- At the root, with a home of one's own. -/
def settler (home : Text) : Shell :=
  Session.inherit "/" (.fresh .standard (Disk.standard.place [])
    [(Utf8.encode "HOME".toList, Utf8.encode home)] (.bytes []))

def settled (home : Text) : Shell := ((settler home).execute idleRunner "cd ~").1

theorem asksFor_home : AsksFor "cd ~" "~" :=
  ⟨⟨some ⟨"cd", ["~"]⟩, []⟩, ⟨"cd", ["~"]⟩, [], by decide +kernel, rfl, by decide +kernel, rfl⟩

theorem asksPlainlyFor_dot : AsksPlainlyFor "cd ." "." :=
  ⟨⟨"cd", ["."]⟩, [], by decide +kernel, by decide +kernel, rfl⟩

theorem dot_stays_at_home :
    ((settler "/tmp").execute idleRunner "cd ~").2 = 0 ∧
      ((settled "/tmp").execute idleRunner "cd .").2 = 0 ∧
      (settled "/tmp").Still ((settled "/tmp").execute idleRunner "cd .").1 := by
  have hz : ((settler "/tmp").execute idleRunner "cd ~").2 = 0 := by decide +kernel
  obtain ⟨habs, hdot⟩ := dot_stays idleRunner (settler "/tmp") (settler "/tmp") [] "cd ~" "~"
    (by decide +kernel) .start asksFor_home hz
  have hserves : HomeServes (settler "/tmp").session ["cd ~"] := by
    refine Or.inl fun home hhome => ?_
    have hhome' : (settler "/tmp").session.home? = some "/tmp" := by decide +kernel
    rw [hhome'] at hhome
    cases hhome
    decide
  exact ⟨hz, hdot (habs hserves) (settled "/tmp") "cd ." (.refl _) (.refl _) asksPlainlyFor_dot⟩

/-- A home at a relative path is where it is for one line only. -/
theorem dot_lost_at_relative_home :
    Path.isAbsolute (settler "tmp").session.currentDir = true ∧
      AsksFor "cd ~" "~" ∧ AsksPlainlyFor "cd ." "." ∧
      ((settler "tmp").execute idleRunner "cd ~").2 = 0 ∧
      ((settled "tmp").execute idleRunner "cd .").2 = 1 :=
  ⟨by decide +kernel, asksFor_home, asksPlainlyFor_dot, by decide +kernel, by decide +kernel⟩

end CommandShell.Shell
