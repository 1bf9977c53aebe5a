import CommandShell.Disk.Placement
import CommandShell.Program
import CommandShell.Proofs.Disk.Agrees
import CommandShell.Proofs.Disk.Unlinked
import CommandShell.Proofs.Session.Stability
/-! Where `cd` goes. Its argument means a path by its text alone, and whether that path can be
entered is the only question to the disk. -/
namespace CommandShell

variable {sh : Shell} {s : Session} {arg path a : Text} {files : List Nat}
  {user user' place : Place} {d d' : Disk} {r : Shell × Outcome}

namespace Path

/-- The path of the steps of one path and then of another, from the root. -/
def through (front back : Text) : Text := ofLocation (landing [] (segments front ++ segments back))

end Path

namespace Shell

/-- What comes of going to a path. It was entered, or it cannot be, and then nothing has changed but
for a note about it. -/
inductive WentTo (sh : Shell) (arg path : Text) : Shell × Outcome → Prop
  | entered {place : Place} (h : Enterable sh.world.disk sh.world.cwd path place) :
      WentTo sh arg path (sh.movedTo path place, .ok 0)
  | refused {sh' : Shell} (h : ∀ place, ¬ Enterable sh.world.disk sh.world.cwd path place)
      (hs : sh' = sh ∨ ∃ cause, sh' = sh.note (.notEntered path cause)) :
      WentTo sh arg path (sh', .error (.noSuchDirectory arg))

theorem wentTo_enter (arg path : Text) (sh : Shell) : WentTo sh arg path (sh.enter arg path) := by
  unfold enter
  split
  · rename_i hd
    split
    · rename_i cause he
      refine .refused (fun place h => ?_) (Or.inr ⟨cause, rfl⟩)
      rw [h.entered] at he
      cases he
    · rename_i place he
      exact .entered ⟨hd, he⟩
  · rename_i hd
    exact .refused (fun place h => hd h.isDirectory) (Or.inl rfl)

theorem wentTo_cd (others : List Text) (h : target? sh.session arg = some path) :
    WentTo sh arg (Path.normalize path) (sh.cd (arg :: others)) := by
  rw [cd, h]
  exact wentTo_enter arg _ sh

/-- Going succeeds exactly where the path can be entered. -/
theorem WentTo.ok_iff (h : WentTo sh arg path r) :
    r.2 = .ok 0 ↔ ∃ place, Enterable sh.world.disk sh.world.cwd path place := by
  cases h with
  | entered he => exact ⟨fun _ => ⟨_, he⟩, fun _ => rfl⟩
  | refused hn hs => exact ⟨nofun, fun ⟨place, he⟩ => absurd he (hn place)⟩

theorem WentTo.moved (h : WentTo sh arg path r)
    (he : Enterable sh.world.disk sh.world.cwd path place) :
    r = (sh.movedTo path place, .ok 0) := by
  cases h with
  | entered he' =>
    have hplace := he'.entered.symm.trans he.entered
    rw [Except.ok.inj hplace]
  | refused hn hs => exact absurd he (hn place)

/-- An absolute path can be entered from everywhere or from nowhere. -/
theorem enterable_congr (h : d.AgreesBut files d') (hu : user'.superuser = user.superuser)
    (hm : user'.mask = user.mask) (ha : Path.isAbsolute path = true) :
    Enterable d' user' path place ↔ Enterable d user path place := by
  have hd := h.isDirectory_absolute hu ha
  have he := h.enter_absolute hu hm ha
  refine ⟨fun hp => ⟨?_, ?_⟩, fun hp => ⟨?_, ?_⟩⟩
  · rw [← hd]
    exact hp.isDirectory
  · rw [← he]
    exact hp.entered
  · rw [hd]
    exact hp.isDirectory
  · rw [he]
    exact hp.entered

/-- An argument that does not go by way of the home is seen from the session's directory. -/
theorem target?_eq_join (h : ¬ ByHome arg) :
    target? s arg = some (Path.join s.currentDir arg) := by
  unfold target?
  split
  · exact absurd (Or.inl rfl) h
  · exact absurd (Or.inr ⟨_, rfl⟩) h
  · split
    · rename_i ha
      rw [Path.join_eq, if_pos ha]
    · rfl

theorem not_byHome_slash (hne : a ≠ []) (h : ¬ ByHome a) (b : Text) : ¬ ByHome (a ++ '/' :: b) := by
  cases a with
  | nil => exact absurd rfl hne
  | cons c a =>
    rintro (he | hp)
    · have htail := (List.cons_eq_cons.1 he).2
      simp at htail
    · obtain ⟨rfl, hrest⟩ := List.cons_prefix_cons.1 hp
      cases a with
      | nil => exact h (Or.inl rfl)
      | cons c' a =>
        obtain ⟨rfl, -⟩ := List.cons_prefix_cons.1 hrest
        exact h (Or.inr ⟨a, rfl⟩)

/-- Whoever enters a directory along an absolute path keeps the rights. -/
theorem Enterable.rights (h : Enterable d user path place) (ha : Path.isAbsolute path = true) :
    place.superuser = user.superuser ∧ place.mask = user.mask := by
  obtain ⟨e, he⟩ := Disk.entered_of_enter ha h.entered
  exact ⟨he.superuser, he.mask⟩

/-- An argument that begins with a tilde and a slash goes on from the home, and no further up than
the root. One more slash, and the home is forgotten: the argument means a path from the root. -/
theorem cd_below_home (sh : Shell) (home rest : Text) (others : List Text)
    (hh : sh.session.home? = some home) (ha : Path.isAbsolute home = true) :
    let arg := '~' :: '/' :: rest
    (Failure.noSuchDirectory arg).message = "cd: ~/" ++ rest ++ ": No such file or directory" ∧
    (Path.isAbsolute rest = false →
      ((sh.cd (arg :: others)).2 = .ok 0 ↔
          ∃ place, Enterable sh.world.disk sh.world.cwd (Path.through home rest) place) ∧
        WentTo sh arg (Path.through home rest) (sh.cd (arg :: others))) ∧
    (Path.isAbsolute rest = true →
      WentTo sh arg (Path.through "/" rest) (sh.cd (arg :: others))) := by
  intro arg
  have htarget : target? sh.session arg = some (Path.join home rest) := by
    rw [target?, hh]
    rfl
  have hwent := wentTo_cd others htarget
  refine ⟨rfl, fun hr => ?_, fun hr => ?_⟩
  · have hpath : Path.normalize (Path.join home rest) = Path.through home rest := by
      rw [Path.normalize_join ha hr, ← Path.landing_append, Path.through]
    rw [hpath] at hwent
    exact ⟨hwent.ok_iff, hwent⟩
  · have hpath : Path.normalize (Path.join home rest) = Path.through "/" rest := by
      rw [Path.join_eq, if_pos hr, Path.normalize_eq hr]
      rfl
    rw [hpath] at hwent
    exact hwent

/-- At the root, with a home that holds one directory. -/
def homely : Shell :=
  let home := Disk.bare.put ["home".toList] directoryMode .directory
  let disk := home.put ["docs".toList, "home".toList] directoryMode .directory
  Session.inherit "/" (.fresh disk (disk.place [])
    [(Utf8.encode "HOME".toList, Utf8.encode "/home".toList)] (.bytes []))

theorem cd_docs :
    homely.session.home? = some "/home" ∧ Path.isAbsolute "/home" = true ∧
      Path.isAbsolute "./up/..//docs/" = false ∧
      (homely.cd ["~/./up/..//docs/"]).2 = .ok 0 ∧
      Path.through "/home" "./up/..//docs/" = "/home/docs" := by
  have hh : homely.session.home? = some "/home" := by decide +kernel
  obtain ⟨-, hgoes, -⟩ := cd_below_home homely "/home" "./up/..//docs/" [] hh (by decide)
  have hplace : Enterable homely.world.disk homely.world.cwd
      (Path.through "/home" "./up/..//docs/") (homely.world.disk.place ["docs", "home"]) :=
    ⟨by decide +kernel, by decide +kernel⟩
  exact ⟨hh, by decide, by decide, (hgoes (by decide)).1.2 ⟨_, hplace⟩, by decide +kernel⟩

theorem docs_missed :
    homely.session.home? = some "/home" ∧ Path.through "/home" "/docs" = "/home/docs" ∧
      (∃ place, Enterable homely.world.disk homely.world.cwd "/home/docs" place) ∧
      (homely.cd ["~//docs"]).2 = .error (.noSuchDirectory "~//docs") :=
  ⟨by decide +kernel, by decide +kernel,
    ⟨homely.world.disk.place ["docs", "home"], by decide +kernel, by decide +kernel⟩,
    by decide +kernel⟩

/-- Two steps and one lead to the same place. The first has to succeed. -/
theorem cd_in_steps (sh later : Shell) (a b : Text) (as bs cs : List Text) (files : List Nat)
    (habs : Path.isAbsolute sh.session.currentDir = true)
    (hne : a ≠ []) (ha : Path.isAbsolute a = false) (ha' : ¬ ByHome a)
    (hb : Path.isAbsolute b = false) (hb' : ¬ ByHome b)
    (hz : (sh.cd (a :: as)).2 = .ok 0) (hs : (sh.cd (a :: as)).1.Still later)
    (hd : sh.world.disk.AgreesBut files later.world.disk) :
    ((later.cd (b :: bs)).2 = .ok 0 ↔ (sh.cd ((a ++ '/' :: b) :: cs)).2 = .ok 0) ∧
      ((later.cd (b :: bs)).2 = .ok 0 →
        (sh.cd ((a ++ '/' :: b) :: cs)).1.Still (later.cd (b :: bs)).1) := by
  have hfirst := wentTo_cd as (target?_eq_join (s := sh.session) ha')
  have honce := wentTo_cd cs (target?_eq_join (s := sh.session) (not_byHome_slash hne ha' b))
  have htwice := wentTo_cd bs (target?_eq_join (s := later.session) hb')
  obtain ⟨place, he⟩ := hfirst.ok_iff.1 hz
  rw [hfirst.moved he] at hs
  have hdir : later.session.currentDir = Path.normalize (Path.join sh.session.currentDir a) := by
    rw [hs.session]
    rfl
  have hpath := Path.normalize_join_join habs hne ha hb
  rw [← hdir] at hpath
  rw [hpath] at htwice
  obtain ⟨hu, hm⟩ := he.rights (Path.isAbsolute_normalize (Path.isAbsolute_join habs a))
  have hcwd : later.world.cwd = place := hs.cwd
  rw [← hcwd] at hu hm
  have habs' := Path.isAbsolute_normalize (Path.isAbsolute_join habs (a ++ '/' :: b))
  have hsame : ∀ place, Enterable later.world.disk later.world.cwd
        (Path.normalize (Path.join sh.session.currentDir (a ++ '/' :: b))) place ↔
      Enterable sh.world.disk sh.world.cwd
        (Path.normalize (Path.join sh.session.currentDir (a ++ '/' :: b))) place :=
    fun place => enterable_congr hd hu hm habs'
  refine ⟨?_, fun hok => ?_⟩
  · rw [htwice.ok_iff, honce.ok_iff]
    exact exists_congr hsame
  · obtain ⟨end', hend⟩ := htwice.ok_iff.1 hok
    rw [htwice.moved hend, honce.moved ((hsame end').1 hend)]
    exact ⟨by rw [movedTo, movedTo, hs.session]; rfl, rfl⟩

/-- Out of a directory that was entered along a link, and back past the link. -/
theorem cd_past_link :
    Path.isAbsolute visitor.session.currentDir = true ∧ ¬ ByHome "bin" ∧ ¬ ByHome "../tmp" ∧
      (visitor.cd ["bin"]).2 = .ok 0 ∧ ((visitor.cd ["bin"]).1.cd ["../tmp"]).2 = .ok 0 ∧
      (visitor.cd ["bin/../tmp"]).2 = .ok 0 ∧
      (visitor.cd ["bin/../tmp"]).1.Still ((visitor.cd ["bin"]).1.cd ["../tmp"]).1 ∧
      (visitor.cd ["bin/../tmp"]).1.session.currentDir = "/tmp" := by
  have hbin : ¬ ByHome "bin" := by
    unfold ByHome
    decide
  have htmp : ¬ ByHome "../tmp" := by
    unfold ByHome
    decide
  have hz : (visitor.cd ["bin"]).2 = .ok 0 := by decide +kernel
  have htwice : ((visitor.cd ["bin"]).1.cd ["../tmp"]).2 = .ok 0 := by decide +kernel
  have hdisk : (visitor.cd ["bin"]).1.world.disk = visitor.world.disk := by decide +kernel
  have hd : visitor.world.disk.AgreesBut [] (visitor.cd ["bin"]).1.world.disk := by
    rw [hdisk]
    exact .refl _ _
  obtain ⟨hiff, hsame⟩ := cd_in_steps visitor (visitor.cd ["bin"]).1 "bin" "../tmp" [] [] [] []
    (by decide +kernel) (by decide) (by decide) hbin (by decide) htmp hz (.refl _) hd
  exact ⟨by decide +kernel, hbin, htmp, hz, htwice, hiff.1 htwice, hsame htwice, by decide +kernel⟩

/-- Where there are no links, a path and its normal form, which is the directory's only path of
plain names, end in one directory, and `cd` gets to it. -/
theorem cd_unlinked (d : Disk) (hu : d.Unlinked) :
    (∀ p l, Path.isAbsolute p = true → d.EndsIn [] p l →
      d.EndsIn [] (Path.normalize p) l ∧ Path.IsPlainPath (Path.normalize p) ∧
        ∀ q, Path.IsPlainPath q → d.EndsIn [] q l → q = Path.normalize p) ∧
    ∀ (sh : Shell) (arg : Text) (others : List Text) (here l : Location), sh.world.disk = d →
      Path.isAbsolute sh.session.currentDir = true → d.EndsIn [] sh.session.currentDir here →
      ¬ ByHome arg → d.EndsIn here arg l → d.Admits sh.world.cwd l →
      ∃ place, place.location = l ∧ place.serials = d.lineage l ∧
        sh.cd (arg :: others) = (sh.movedTo (Path.ofLocation l) place, .ok 0) := by
  refine ⟨fun p l ha hp => ?_, fun sh arg others here l hdisk habs hcur harg hends hadmits => ?_⟩
  · obtain ⟨hends, hnormal⟩ := hp.normalize hu ha
    refine ⟨hends, Path.isPlainPath_normalize ha, fun q hq hends' => ?_⟩
    rw [hnormal]
    exact hends'.eq_ofLocation hu hq
  · subst hdisk
    have hwent := wentTo_cd others (target?_eq_join (s := sh.session) harg)
    have habs' := Path.isAbsolute_join habs arg
    have hjoined : sh.world.disk.EndsIn [] (Path.join sh.session.currentDir arg) l := by
      cases hr : Path.isAbsolute arg with
      | false => exact hcur.join habs hr hends
      | true =>
        rw [Path.join_eq, if_pos hr]
        exact hends.of_isAbsolute hr []
    obtain ⟨place, hl, hserials, hdir, hentered⟩ := hadmits.enter hu
    rw [(hjoined.normalize hu habs').2] at hwent
    exact ⟨place, hl, hserials, hwent.moved ⟨hdir, hentered⟩⟩

theorem unlinked_homely : homely.world.disk.Unlinked :=
  Disk.unlinked_of_entries (by decide +kernel)

/-- Up to the root and further, and down again. -/
theorem cd_unlinked_docs :
    homely.world.disk.Unlinked ∧
      homely.world.disk.EndsIn [] "/../home/docs/../docs" ["docs".toList, "home".toList] ∧
      homely.world.disk.EndsIn [] (Path.normalize "/../home/docs/../docs")
        ["docs".toList, "home".toList] ∧
      ∃ place, place.location = ["docs".toList, "home".toList] ∧
        homely.cd ["../home/docs/../docs"] = (homely.movedTo "/home/docs" place, .ok 0) := by
  obtain ⟨hpaths, hcd⟩ := cd_unlinked homely.world.disk unlinked_homely
  have hroot : homely.world.disk.IsDirectoryAt [] :=
    ⟨⟨1, directoryMode, .directory⟩, by decide +kernel, by decide⟩
  have hdocs : homely.world.disk.IsDirectoryAt ["docs".toList, "home".toList] :=
    ⟨⟨3, directoryMode, .directory⟩, by decide +kernel, by decide⟩
  have hhere : homely.world.disk.EndsIn [] homely.session.currentDir [] :=
    Disk.endsIn_of_walk (by decide +kernel) hroot
  have hp : homely.world.disk.EndsIn [] "/../home/docs/../docs" ["docs".toList, "home".toList] :=
    Disk.endsIn_of_walk (by decide +kernel) hdocs
  have harg : homely.world.disk.EndsIn [] "../home/docs/../docs" ["docs".toList, "home".toList] :=
    Disk.endsIn_of_walk (by decide +kernel) hdocs
  have hadmits : homely.world.disk.Admits homely.world.cwd ["docs".toList, "home".toList] :=
    ⟨"/home/docs", homely.world.disk.place ["docs".toList, "home".toList], by decide,
      by decide +kernel, rfl⟩
  have hhome : ¬ ByHome "../home/docs/../docs" := by
    unfold ByHome
    decide
  obtain ⟨place, hl, -, hmoved⟩ := hcd homely "../home/docs/../docs" [] [] _ rfl (by decide) hhere
    hhome harg hadmits
  exact ⟨unlinked_homely, hp, (hpaths _ _ (by decide) hp).1, place, hl, hmoved⟩

end Shell
end CommandShell
