import CommandShell.Disk.Placement
import CommandShell.Program
import CommandShell.Proofs.Session.Frame
import CommandShell.Proofs.Session.Started
import CommandShell.Proofs.Session.Supplies
import CommandShell.Proofs.Session.Variables
/-! The variables of a process go through its session to the programs that it starts. No line changes
them, and so the last program gets what the first one got. -/
namespace CommandShell

open Environment

namespace Shell

variable {run : Runner} {sh : Shell} {line : Text} {lines : List Text} {p : Process}

/-- No line changes the variables, those of the session or those of the process. -/
theorem variables_executeLines (run : Runner) (lines : List Text) (sh : Shell) :
    (executeLines run lines sh).session.vars = sh.session.vars ∧
      (executeLines run lines sh).world.environment = sh.world.environment := by
  refine executeLines_induction
    (fun sh sh' => sh'.session.vars = sh.session.vars ∧
      sh'.world.environment = sh.world.environment)
    (fun _ => ⟨rfl, rfl⟩) (fun h h' => ⟨h'.1.trans h.1, h'.2.trans h.2⟩) (fun line sh => ?_)
    lines sh
  exact ⟨(framed_execute run line sh).vars, (supplied_execute run line sh).environment⟩

theorem prepared_variables (path : Text) (c : Command) (sh : Shell) :
    (sh.prepared path c).session.vars = sh.session.vars ∧
      (sh.prepared path c).world.environment = sh.world.environment := by
  have hworld : sh.world.Supplied idleRunner (sh.prepared path c).world := supplied_prepared path c sh
  exact ⟨by rw [(prepared_spec path c sh).1], hworld.environment⟩

theorem startedFor_environment {c : Command} {o : Outlets} (h : sh.startedFor c o = some p) :
    p.environment = extend [] (sh.world.environment ++ sh.session.vars.encode) := by
  unfold startedFor at h
  split at h
  · rename_i path _
    obtain ⟨hvars, henv⟩ := prepared_variables path c sh
    unfold World.started at h
    split at h
    · cases h
    · rename_i process hstart
      obtain rfl := Option.some.inj h
      rw [← hvars, ← henv]
      exact (Launch.start_spec hstart).2.1
  · cases h

/-- A program is started with the variables of the process, and those of the session over them. -/
theorem started_environment (h : sh.started line = some p) :
    p.environment = extend [] (sh.world.environment ++ sh.session.vars.encode) := by
  unfold started at h
  split at h
  · cases h
  · rename_i l hl
    have htargets : sh.world.Supplied idleRunner (sh.targets l).1 := supplied_targets l sh
    split at h
    · rename_i w o c hopened hc
      rw [hopened] at htargets
      rw [← htargets.environment]
      exact startedFor_environment h
    · cases h

theorem programs_environment (h : p ∈ sh.programs run lines) :
    p.environment = extend [] (sh.world.environment ++ sh.session.vars.encode) := by
  obtain ⟨before, line, hstarted⟩ := mem_programs h
  obtain ⟨hvars, henv⟩ := variables_executeLines run before sh
  rw [started_environment hstarted, hvars, henv]

theorem programs_distinct (h : p ∈ sh.programs run lines) : Distinct p.environment := by
  rw [programs_environment h]
  exact distinct_extend _

/-- What a program should find under a name: what the session binds it to, or else the process. -/
def binding (sh : Shell) (n : Bytes) : Option Bytes :=
  (((Utf8.decode? n).bind sh.session.vars.get?).map Utf8.encode).or (sh.world.environment.lookup n)

theorem programs_binds (henv : Distinct sh.world.environment) (hvars : Distinct sh.session.vars)
    (h : p ∈ sh.programs run lines) (n : Bytes) : p.environment.Binds n (sh.binding n) := by
  have hlookup : p.environment.lookup n = sh.binding n := by
    rw [programs_environment h, lookup_extend_append henv (Variables.distinct_encode hvars),
      Variables.lookup_encode hvars, binding]
  rw [← hlookup]
  exact fun v => (programs_distinct h).mem_iff

theorem binding_cases {n v : Bytes} (h : sh.binding n = some v) :
    (∃ name, sh.session.vars.get? name ≠ none ∧ n = Utf8.encode name) ∨
      sh.world.environment.lookup n = some v := by
  rcases Option.or_eq_some_iff.1 h with hsession | ⟨-, hprocess⟩
  · obtain ⟨value, hbound, -⟩ := Option.map_eq_some_iff.1 hsession
    obtain ⟨name, hname, hvalue⟩ := Option.bind_eq_some_iff.1 hbound
    refine Or.inl ⟨name, ?_, Utf8.decode?_eq_some_iff.1 hname⟩
    rw [hvalue]
    exact Option.some_ne_none value
  · exact Or.inr hprocess

/-- A program finds what it should, unless the name it looks for is cut out of a longer one. -/
theorem programs_find (henv : sh.world.environment.WellFormed) (hvars : Distinct sh.session.vars)
    (h : p ∈ sh.programs run lines) {n : Bytes} (hn : IsName n)
    (hcut : ∀ name, sh.session.vars.get? name ≠ none → ¬ n ++ [0x3D] <+: Utf8.encode name) :
    (ofStrings (p.environment.map string)).Binds n (sh.binding n) := by
  intro v
  rw [← programs_binds henv.distinct hvars h n v]
  refine mem_ofStrings_iff hn fun e he hpre => ?_
  rcases binding_cases ((programs_binds henv.distinct hvars h e.1 e.2).1 he) with
    ⟨name, hbound, hname⟩ | hprocess
  · rw [hname] at hpre
    exact hcut name hbound hpre
  · have hnamed := henv.named e (henv.distinct.mem_iff.2 hprocess)
    exact hnamed.2 (hpre.subset (List.mem_append_right n (List.mem_singleton_self _)))

theorem environment_inherit (directory : Text) (w : World) :
    (Session.inherit directory w).world.environment = w.environment :=
  Session.inherit_stages (·.environment = w.environment) directory
    (fun r w' h => (World.mutters_note w' r).environment.trans h) rfl

/-- The session adds nothing to what it took over. -/
theorem binding_inherit (directory : Text) {w : World} (h : Distinct w.environment) (n : Bytes) :
    (Session.inherit directory w).binding n = w.environment.lookup n := by
  obtain ⟨-, hget⟩ := inherit_spec directory h
  rw [binding, environment_inherit]
  cases hbound : (Utf8.decode? n).bind (Session.inherit directory w).session.vars.get? with
  | none => rfl
  | some value =>
    obtain ⟨name, hname, hvalue⟩ := Option.bind_eq_some_iff.1 hbound
    obtain rfl := Utf8.decode?_eq_some_iff.1 hname
    exact (h.mem_iff.1 ((hget name value).1 hvalue)).symm

/-- A session that took over the variables of its process gives all of them to its programs. -/
theorem programs_inherit {directory : Text} {w : World} (henv : w.environment.WellFormed)
    (h : p ∈ programs run lines (Session.inherit directory w)) :
    p.environment.Perm w.environment ∧ ofStrings (p.environment.map string) = p.environment := by
  obtain ⟨hvars, -⟩ := inherit_spec directory henv.distinct
  have hmem : ∀ e, e ∈ p.environment ↔ e ∈ w.environment := by
    intro e
    have hbinds := programs_binds (by rw [environment_inherit]; exact henv.distinct) hvars h e.1 e.2
    rw [binding_inherit directory henv.distinct, ← henv.distinct.mem_iff] at hbinds
    exact hbinds
  have hnodup : p.environment.Nodup := (programs_distinct h).nodup
  refine ⟨(List.perm_ext_iff_of_nodup hnodup henv.distinct.nodup).2 hmem, ?_⟩
  exact ofStrings_string fun e he => henv.named e ((hmem e).1 he)

/-- A session that takes over the variables of its process has those that are text, and its programs
get all of them, text or not, after any lines. The programs of any other session get its variables
over those of the process, and find them under every name that is not cut out of a longer one. The
programs in question are all that have a part in what the lines do. -/
theorem variables_handed_on (run : Runner) (lines : List Text) (directory : Text) (s : Session)
    (w : World) (henv : w.environment.WellFormed) (hvars : Distinct s.vars) :
    (∀ name value, (Session.inherit directory w).session.vars.get? name = some value ↔
        (Utf8.encode name, Utf8.encode value) ∈ w.environment) ∧
      (∀ p ∈ programs run lines (Session.inherit directory w),
        p.environment.Perm w.environment ∧
          ofStrings (p.environment.map string) = p.environment) ∧
      (∀ p ∈ programs run lines ⟨s, w⟩, ∀ n,
        p.environment.Binds n (binding ⟨s, w⟩ n) ∧
          (IsName n → (∀ name, s.vars.get? name ≠ none → ¬ n ++ [0x3D] <+: Utf8.encode name) →
            (ofStrings (p.environment.map string)).Binds n (binding ⟨s, w⟩ n))) ∧
      ∀ (run' : Runner) (sh : Shell), (∀ p ∈ programs run lines sh, run p = run' p) →
        executeLines run lines sh = executeLines run' lines sh := by
  refine ⟨(inherit_spec directory henv.distinct).2, fun p hp => programs_inherit henv hp,
    fun p hp n => ⟨programs_binds henv.distinct hvars hp n, fun hn hcut => ?_⟩,
    fun run' sh h => executeLines_congr h⟩
  exact programs_find henv hvars hp hn hcut

/-- Variables of which two are no text, one for its name and one for its value. -/
def mixed : Environment :=
  [(Utf8.encode "HOME", Utf8.encode "/tmp"), (Utf8.encode "PATH", Utf8.encode "/bin"),
    ([0xFE], Utf8.encode "x"), (Utf8.encode "RAW", [0xFF])]

def host (env : Environment) : World :=
  .fresh .standard (Disk.standard.place []) env (.bytes [])

def overriding : Session := .fresh "/" [("PATH", "/usr/bin"), ("RAW", "text")]

def errands : List Text := ["dash", "cd ~", "dash > log"]

/-- Each session starts two programs; one of them has no home to go to in between. -/
theorem variables_handed_on_mixed :
    (host mixed).environment.WellFormed ∧ Distinct overriding.vars ∧
      (Session.inherit "/" (host mixed)).session.vars.get? "HOME" = some "/tmp".toList ∧
      (Session.inherit "/" (host mixed)).session.vars.get? "RAW" = none ∧
      (programs idleRunner errands (Session.inherit "/" (host mixed))).length = 2 ∧
      (∀ p ∈ programs idleRunner errands (Session.inherit "/" (host mixed)),
        p.environment.Perm mixed) ∧
      (programs idleRunner errands ⟨overriding, host mixed⟩).length = 2 ∧
      ∀ p ∈ programs idleRunner errands ⟨overriding, host mixed⟩,
        (Utf8.encode "RAW", Utf8.encode "text") ∈ ofStrings (p.environment.map string) ∧
          ([0xFE], Utf8.encode "x") ∈ p.environment := by
  have henv : (host mixed).environment.WellFormed :=
    ⟨by unfold IsName; decide +kernel, by unfold Distinct; decide +kernel⟩
  have hvars : Distinct overriding.vars := by unfold Distinct; decide +kernel
  obtain ⟨hkept, hsame, hover, -⟩ :=
    variables_handed_on idleRunner errands "/" overriding (host mixed) henv hvars
  have hcut : ∀ name, overriding.vars.get? name ≠ none →
      ¬ Utf8.encode "RAW" ++ [0x3D] <+: Utf8.encode name := by
    intro name hbound
    obtain ⟨value, hvalue⟩ := Option.ne_none_iff_exists'.1 hbound
    have hall : ∀ e ∈ overriding.vars, ¬ Utf8.encode "RAW" ++ [0x3D] <+: Utf8.encode e.1 := by
      decide +kernel
    exact hall (name, value) (hvars.mem_iff.2 hvalue)
  refine ⟨henv, hvars, (hkept _ _).2 (by decide +kernel), by decide +kernel, by decide +kernel,
    fun p hp => (hsame p hp).1, by decide +kernel, fun p hp => ⟨?_, ?_⟩⟩
  · have hname : IsName (Utf8.encode "RAW") := by unfold IsName; decide +kernel
    exact ((hover p hp _).2 hname hcut _).2 (by decide +kernel)
  · exact ((hover p hp _).1 _).2 (by decide +kernel)

/-- In a process without variables, a session with a name that has the sign in it. -/
def signed : Shell := ⟨.fresh "/" [("PATH", "/bin"), ("A=B", "c")], host []⟩

/-- The name is cut at the sign: a program finds a value under the first part of it, and none under
the whole. -/
theorem name_cut_at_sign :
    signed.binding (Utf8.encode "A") = none ∧
      signed.binding (Utf8.encode "A=B") = some (Utf8.encode "c") ∧
      ∃ p ∈ programs idleRunner ["dash"] signed, ofStrings (p.environment.map string) =
        [(Utf8.encode "A", Utf8.encode "B=c"), (Utf8.encode "PATH", Utf8.encode "/bin")] := by
  decide +kernel

end Shell
end CommandShell
