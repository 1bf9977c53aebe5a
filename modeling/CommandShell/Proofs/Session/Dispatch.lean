import CommandShell.Proofs.Session.Candidates
import CommandShell.Proofs.Session.Parts
import CommandShell.Proofs.Session.Repl
import CommandShell.Proofs.World.Written
/-! What `type` says of a name is what becomes of a command of that name. -/
namespace CommandShell

variable {d d' : Disk} {files : List Nat}

namespace Disk

theorem AgreesBut.find (h : AgreesBut files d d') (user : Place) (path : Text) :
    d'.find user path = d.find user path := by
  unfold Disk.find
  rw [h.locate]
  simp only [h.lookup]

theorem AgreesBut.isExecutable (h : AgreesBut files d d') (user : Place) :
    d'.isExecutable user = d.isExecutable user := by
  funext path
  rw [Disk.isExecutable, h.find, Disk.isExecutable]

end Disk

namespace Path

theorem slash_mem_join_of_slash (base : Text) {p : Text} (h : '/' ∈ p) : '/' ∈ join base p := by
  rw [join_eq]
  split
  · exact h
  · split
    · exact List.mem_append_right _ h
    · exact List.mem_append_right _ h

theorem slash_mem_join {base : Text} (hb : base ≠ []) (p : Text) : '/' ∈ join base p := by
  rw [join_eq]
  split
  · rename_i ha
    rw [isAbsolute, beq_iff_eq] at ha
    exact List.mem_of_head? ha
  · split
    · rename_i he
      exact List.mem_append_left _ (List.mem_of_getLast? (he.resolve_left hb))
    · exact List.mem_append_left _ (List.mem_append_right _ (List.mem_singleton_self _))

theorem join_ne_nil (base : Text) {p : Text} (h : p ≠ []) : join base p ≠ [] := by
  rw [join_eq]
  split
  · exact h
  · split
    · exact List.append_ne_nil_of_right_ne_nil _ h
    · exact List.append_ne_nil_of_right_ne_nil _ h

end Path

/-- A program has a path with a slash, whatever its name and its directory are. -/
theorem slash_mem_of_findProgram? {cwd : Place} {search name currentDir path : Text}
    (h : findProgram? d cwd search name currentDir = some path) : '/' ∈ path := by
  rw [findProgram?_eq] at h
  have hmem := List.mem_of_find?_eq_some h
  rw [candidates_eq] at hmem
  split at hmem
  · cases hmem
  · split at hmem
    · rename_i hs
      cases List.mem_singleton.1 hmem
      exact Path.slash_mem_join_of_slash _ hs
    · obtain ⟨dir, hdir, rfl⟩ := List.mem_map.1 hmem
      have hne : dir ≠ [] := by
        have hfull := (List.mem_filter.1 hdir).2
        simpa using hfull
      exact Path.slash_mem_join (Path.join_ne_nil _ hne) _

theorem Utf8.encode_flatten (ts : List Text) : encode ts.flatten = ts.flatMap encode := by
  rw [encode, List.flatten_eq_flatMap, List.flatMap_assoc]
  rfl

theorem World.print_append (out : Outlet) (ts us : List Text) (w : World) :
    World.print out (ts ++ us) w =
      match World.print out ts w with
      | (w, some cause) => (w, some cause)
      | (w, none) => World.print out us w := by
  induction ts generalizing w with
  | nil => rfl
  | cons t ts ih =>
    rw [List.cons_append, World.print, World.print]
    cases w.write out (Utf8.encode t) with
    | mk w' fault =>
      cases fault with
      | some cause => rfl
      | none => exact ih w'

namespace Shell

variable {run : Runner} {sh sh' : Shell} {name : Text}

/-- A name means the same wherever the entries of the disk, the place and the variables are. -/
theorem meaning_congr (h : sh.Still sh') (hd : sh.world.disk.AgreesBut files sh'.world.disk) :
    sh'.meaning = sh.meaning := by
  funext name
  rw [meaning, resolve?, h.session, h.cwd, findProgram?_eq, hd.isExecutable, meaning, resolve?,
    findProgram?_eq]

/-- The lines about names, in the pieces in which they are written. -/
def typePieces (sh : Shell) (names : List Text) : List Text :=
  names.flatMap fun name => (sh.meaning name).texts name

/-- What `type` returns unless it fails. -/
def typeCode (sh : Shell) (names : List Text) (code : Int) : Int :=
  if names.any (fun name => sh.meaning name = .nothing) then 1 else code

/-- Nothing that `type` writes changes what the names mean that are still to come. -/
theorem typeEach_eq (out : Outlet) (names : List Text) (code : Int) (sh : Shell) :
    typeEach out names code sh =
      ({ sh with world := (World.print out (sh.typePieces names) sh.world).1 },
        match (World.print out (sh.typePieces names) sh.world).2 with
        | none => .ok (sh.typeCode names code)
        | some cause => .error (.output Builtin.type.name cause)) := by
  induction names generalizing code sh with
  | nil => rfl
  | cons name names ih =>
    have hpieces : sh.typePieces (name :: names) =
        (sh.meaning name).texts name ++ sh.typePieces names := rfl
    obtain ⟨files, hagrees⟩ := World.agrees_print sh.world out ((sh.meaning name).texts name)
    have hsteady := World.steady_print sh.world out ((sh.meaning name).texts name)
    rw [typeEach, say, hpieces, World.print_append]
    cases hp : World.print out ((sh.meaning name).texts name) sh.world with
    | mk w fault =>
      cases fault with
      | some cause => rfl
      | none =>
        rw [hp] at hagrees hsteady
        have hmeaning : ({ sh with world := w } : Shell).meaning = sh.meaning :=
          meaning_congr ⟨rfl, hsteady.cwd⟩ hagrees
        have hrest : ({ sh with world := w } : Shell).typePieces names = sh.typePieces names := by
          rw [typePieces, hmeaning, typePieces]
        dsimp only
        rw [ih, hrest]
        have hcode : ({ sh with world := w } : Shell).typeCode names
            (if sh.meaning name = .nothing then 1 else code) = sh.typeCode (name :: names) code := by
          rw [typeCode, hmeaning, typeCode, List.any_cons]
          by_cases hn : sh.meaning name = .nothing
          · simp [hn]
          · simp [hn]
        rw [hcode]

/-- The line that `type` prints about a name. -/
def typeLine (sh : Shell) (name : Text) : Text := ((sh.meaning name).texts name).flatten

def builtinLine (name : Text) : Text := name ++ " is a shell builtin\n"

def programLine (name path : Text) : Text := name ++ (" is " ++ (path ++ "\n"))

def unknownLine (name : Text) : Text := name ++ ": not found\n"

/-- The pieces that `type` writes are the lines about the names, one after another. -/
theorem flatten_typePieces (sh : Shell) (names : List Text) :
    (sh.typePieces names).flatten = names.flatMap sh.typeLine := by
  induction names with
  | nil => rfl
  | cons name names ih =>
    have hpieces : sh.typePieces (name :: names) =
        (sh.meaning name).texts name ++ sh.typePieces names := rfl
    rw [hpieces, List.flatten_append, ih, List.flatMap_cons, typeLine]

theorem typeLine_eq (sh : Shell) (name : Text) :
    sh.typeLine name =
      match sh.meaning name with
      | .builtin _ => builtinLine name
      | .program path => programLine name path
      | .nothing => unknownLine name := by
  unfold typeLine
  cases sh.meaning name with
  | builtin b => simp [Meaning.texts, builtinLine]
  | program path => simp [Meaning.texts, programLine]
  | nothing => simp [Meaning.texts, unknownLine]

theorem programLine_ne_unknownLine (name path : Text) : programLine name path ≠ unknownLine name := by
  intro h
  have htail := congrArg List.head? (List.append_cancel_left h)
  exact absurd htail (by simp)

theorem programLine_inj {path path' : Text}
    (h : programLine name path = programLine name path') : path = path' :=
  List.append_cancel_right (List.append_cancel_left (List.append_cancel_left h))

/-- What the line of a built-in has in the place of a path. -/
def builtinMark : Text := "a shell builtin"

theorem builtinLine_eq (name : Text) : builtinLine name = programLine name builtinMark := rfl

theorem slash_mem_of_meaning {path : Text} (h : sh.meaning name = .program path) : '/' ∈ path := by
  unfold meaning at h
  split at h
  · cases h
  · split at h
    · rename_i hp
      cases h
      exact slash_mem_of_findProgram? hp
    · cases h

theorem name_of_meaning {b : Builtin} (h : sh.meaning name = .builtin b) : name = b.name := by
  unfold meaning at h
  split at h
  · cases h
    exact Builtin.name_of_ofName? ‹_›
  · split at h <;> cases h

theorem meaning_builtin (b : Builtin) (sh : Shell) : sh.meaning b.name = .builtin b := by
  rw [meaning, Builtin.ofName?_name]

theorem typeLine_eq_builtinLine : sh.typeLine name = builtinLine name ↔
    ∃ b, sh.meaning name = .builtin b := by
  rw [typeLine_eq]
  cases hm : sh.meaning name with
  | builtin b => exact ⟨fun _ => ⟨b, rfl⟩, fun _ => rfl⟩
  | program path =>
    refine ⟨fun h => ?_, fun ⟨b, h⟩ => nomatch h⟩
    have hslash := slash_mem_of_meaning hm
    rw [programLine_inj (h.trans (builtinLine_eq name))] at hslash
    exact absurd hslash (by decide)
  | nothing =>
    refine ⟨fun h => ?_, fun ⟨b, h⟩ => nomatch h⟩
    exact absurd h.symm (programLine_ne_unknownLine name builtinMark)

theorem typeLine_eq_programLine {path : Text} :
    sh.typeLine name = programLine name path ∧ path ≠ builtinMark ↔
      sh.meaning name = .program path := by
  rw [typeLine_eq]
  cases hm : sh.meaning name with
  | builtin b =>
    refine ⟨fun h => ?_, nofun⟩
    have hline := (builtinLine_eq name).symm.trans h.1
    exact absurd (programLine_inj hline).symm h.2
  | program path' =>
    refine ⟨fun h => by rw [programLine_inj h.1], fun h => ?_⟩
    cases h
    refine ⟨rfl, ?_⟩
    rintro rfl
    exact absurd (slash_mem_of_meaning hm) (by decide)
  | nothing => exact ⟨fun h => absurd h.1.symm (programLine_ne_unknownLine name path), nofun⟩

theorem typeLine_eq_unknownLine : sh.typeLine name = unknownLine name ↔
    sh.meaning name = .nothing := by
  rw [typeLine_eq]
  cases hm : sh.meaning name with
  | builtin b => exact ⟨fun h => absurd h (programLine_ne_unknownLine name builtinMark), nofun⟩
  | program path => exact ⟨fun h => absurd h (programLine_ne_unknownLine name path), nofun⟩
  | nothing => exact ⟨fun _ => rfl, fun _ => rfl⟩

/-! ## What becomes of a command without redirections -/

theorem executeLine_plain (run : Runner) (c : Command) (sh : Shell) :
    sh.executeLine run ⟨some c, []⟩ = sh.executeCommand run c {} := rfl

/-- The command ran as the built-in of its name, which started nothing. The line has the status that
the built-in returned, or tells of its failure, and winds the built-in up. -/
def RunsBuiltin (run : Runner) (c : Command) (sh : Shell) : Prop :=
  ∃ b, b.name = c.name ∧ sh.executeLine run ⟨some c, []⟩ = sh.executeBuiltin b c {} ∧
    (sh.executeLine run ⟨some c, []⟩).1.world.launches = sh.world.launches ∧
    sh.executeLine run ⟨some c, []⟩ =
      match sh.runBuiltin b c.arguments .own with
      | (ran, .ok code) => (ran.windUp c {}, code)
      | (ran, .error f) => ((ran.report .own f).windUp c {}, failureStatus)

/-- The launch that a command without redirections asks for. -/
def plainLaunch (path : Text) (c : Command) (sh : Shell) : Launch where
  program := path
  name := c.name
  arguments := c.arguments
  vars := sh.session.vars
  directory := sh.session.currentDir
  output := none
  errors := none

theorem launchOf_plain (path : Text) (c : Command) (sh : Shell) :
    (sh.prepared path c).launchOf path c {} = sh.plainLaunch path c := by
  rw [launchOf, (prepared_spec path c sh).1]
  rfl

/-- The command was a request for a program, and for nothing else. The line has the status of the
program, or tells that it could not be started. -/
def Launches (run : Runner) (c : Command) (path : Text) (sh : Shell) : Prop :=
  sh.executeLine run ⟨some c, []⟩ = sh.executeProgram run path c {} ∧
    (sh.executeLine run ⟨some c, []⟩).1.world.launches =
      ⟨path, c.name, c.arguments⟩ :: sh.world.launches ∧
    sh.executeLine run ⟨some c, []⟩ =
      match (sh.prepared path c).world.launch run (sh.plainLaunch path c) {} with
      | (world, .error cause) =>
        ({ sh with world }.report .own (.launch c.name cause), failureStatus)
      | (world, .ok status) =>
        (if world.killedBy.isSome then { sh with world }
          else { sh with world }.note (.finished c.name status), status.code)

/-- The command started nothing and has the status of an unknown one. -/
def RunsNothing (run : Runner) (c : Command) (sh : Shell) : Prop :=
  (sh.executeLine run ⟨some c, []⟩).1.world.launches = sh.world.launches ∧
    (sh.executeLine run ⟨some c, []⟩).2 = notFoundStatus

theorem say_code {b : Builtin} {out : Outlet} {texts : List Text} {code : Int}
    (h : (sh.say b out texts).2 = .ok code) : code = 0 := by
  unfold say at h
  dsimp only at h
  split at h
  · cases h
    rfl
  · cases h

theorem cd_code {args : List Text} {code : Int} (h : (sh.cd args).2 = .ok code) : code = 0 := by
  cases args with
  | nil =>
    cases h
    rfl
  | cons arg rest =>
    rcases cd_cases arg rest sh with ⟨-, he, -⟩ | ⟨path, place, -, hm⟩
    · rw [he] at h
      cases h
    · rw [hm] at h
      cases h
      rfl

theorem typeNames_code {names : List Text} {out : Outlet} {code : Int}
    (h : (sh.typeNames names out).2 = .ok code) : code = 0 ∨ code = 1 := by
  unfold typeNames at h
  split at h
  · cases h
  · rw [typeEach_eq] at h
    dsimp only at h
    split at h
    · cases h
      unfold typeCode
      split
      · exact Or.inr rfl
      · exact Or.inl rfl
    · cases h

/-- A built-in that does not fail has one of two statuses. -/
theorem runBuiltin_code {b : Builtin} {args : List Text} {out : Outlet} {code : Int}
    (h : (sh.runBuiltin b args out).2 = .ok code) : code = 0 ∨ code = 1 := by
  cases b with
  | exit =>
    cases h
    exact Or.inl rfl
  | echo => exact Or.inl (say_code h)
  | type => exact typeNames_code h
  | pwd => exact Or.inl (say_code h)
  | cd => exact Or.inl (cd_code h)

/-- No built-in has the status of an unknown command. -/
theorem executeBuiltin_known (b : Builtin) (c : Command) (o : Outlets) (sh : Shell) :
    (sh.executeBuiltin b c o).2 ≠ notFoundStatus := by
  rw [executeBuiltin_status]
  cases hout : (sh.runBuiltin b c.arguments o.output).2 with
  | error f => exact (by decide : failureStatus ≠ notFoundStatus)
  | ok code =>
    rcases runBuiltin_code hout with rfl | rfl
    · exact (by decide : (0 : Int) ≠ notFoundStatus)
    · exact (by decide : (1 : Int) ≠ notFoundStatus)

/-- What becomes of a command, by what its name means. -/
theorem executeLine_plain_cases (run : Runner) (c : Command) (sh : Shell) :
    match sh.meaning c.name with
    | .builtin _ => RunsBuiltin run c sh ∧ (∀ path, ¬ Launches run c path sh) ∧
        ¬ RunsNothing run c sh
    | .program path => ¬ RunsNothing run c sh ∧ ∀ path', Launches run c path' sh ↔ path' = path
    | .nothing => RunsNothing run c sh ∧ ∀ path, ¬ Launches run c path sh := by
  have hgrown : ∀ (q : Request) (qs : List Request), qs ≠ q :: qs :=
    fun q qs h => List.cons_ne_self q qs h.symm
  cases hm : sh.meaning c.name with
  | builtin b =>
    have hexec : sh.executeLine run ⟨some c, []⟩ = sh.executeBuiltin b c {} := by
      rw [executeLine_plain, executeCommand, hm]
    have hlaunches := launches_executeBuiltin b c {} sh
    rw [← hexec] at hlaunches
    have hended := hexec.trans (executeBuiltin_eq b c {} sh)
    refine ⟨⟨b, (name_of_meaning hm).symm, hexec, hlaunches, hended⟩, fun path h => ?_, fun h => ?_⟩
    · exact hgrown _ _ (hlaunches.symm.trans h.2.1)
    · rw [RunsNothing, hexec] at h
      exact executeBuiltin_known b c {} sh h.2
  | program path =>
    have hexec : sh.executeLine run ⟨some c, []⟩ = sh.executeProgram run path c {} := by
      rw [executeLine_plain, executeCommand, hm]
    have hlaunches := launches_executeProgram run path c {} sh
    rw [← hexec] at hlaunches
    refine ⟨fun h => hgrown _ _ (h.1.symm.trans hlaunches), fun path' => ⟨fun h => ?_, ?_⟩⟩
    · have hsame := h.2.1.symm.trans hlaunches
      cases hsame
      rfl
    · rintro rfl
      have hended := hexec.trans (executeProgram_eq run path' c {} sh)
      rw [launched, launchOf_plain] at hended
      exact ⟨hexec, hlaunches, hended⟩
  | nothing =>
    have hexec : sh.executeLine run ⟨some c, []⟩ =
        ((sh.report .own (.commandNotFound c.name)).mapWorld (Outlets.close {}), notFoundStatus) := by
      rw [executeLine_plain, executeCommand, hm]
    have hlaunches : (sh.executeLine run ⟨some c, []⟩).1.world.launches = sh.world.launches := by
      rw [hexec]
      exact (World.hushed_close _ {}).quiet.launches.trans (World.launches_report _ _ _)
    refine ⟨⟨hlaunches, by rw [hexec]⟩, fun path h => ?_⟩
    exact hgrown _ _ (hlaunches.symm.trans h.2.1)

theorem runsBuiltin_iff {c : Command} :
    RunsBuiltin run c sh ↔ ∃ b, sh.meaning c.name = .builtin b := by
  have hcases := executeLine_plain_cases run c sh
  refine ⟨fun ⟨b, hb, _⟩ => ⟨b, by rw [← hb, meaning_builtin]⟩, fun ⟨b, hb⟩ => ?_⟩
  rw [hb] at hcases
  exact hcases.1

theorem launches_iff {c : Command} {path : Text} :
    Launches run c path sh ↔ sh.meaning c.name = .program path := by
  have hcases := executeLine_plain_cases run c sh
  cases hm : sh.meaning c.name with
  | builtin b =>
    rw [hm] at hcases
    exact ⟨fun h => absurd h (hcases.2.1 path), nofun⟩
  | program path' =>
    rw [hm] at hcases
    rw [hcases.2 path, Meaning.program.injEq]
    exact eq_comm
  | nothing =>
    rw [hm] at hcases
    exact ⟨fun h => absurd h (hcases.2 path), nofun⟩

theorem runsNothing_iff {c : Command} :
    RunsNothing run c sh ↔ sh.meaning c.name = .nothing := by
  have hcases := executeLine_plain_cases run c sh
  cases hm : sh.meaning c.name with
  | builtin b =>
    rw [hm] at hcases
    exact ⟨fun h => absurd h hcases.2.2, nofun⟩
  | program path =>
    rw [hm] at hcases
    exact ⟨fun h => absurd h hcases.1, nofun⟩
  | nothing =>
    rw [hm] at hcases
    exact ⟨fun _ => rfl, fun _ => hcases.1⟩

theorem typeCode_eq (sh : Shell) (names : List Text) (code : Int) :
    sh.typeCode names code =
      if ∃ name ∈ names, sh.typeLine name = unknownLine name then 1 else code := by
  unfold typeCode
  simp only [typeLine_eq_unknownLine, List.any_eq_true, decide_eq_true_eq]

/-- `type` writes one line for each name, in order, whatever the names are, and returns 1 just when
one of them is unknown. The line about a name tells what becomes of a command of that name, with
any arguments, in the same state: a built-in runs, one program is launched under the name, or
nothing is. -/
theorem type_foretells (names : List Text) (hn : names ≠ []) (out : Outlet) (sh : Shell) :
    sh.runBuiltin .type names out =
        ({ sh with world := (World.print out (sh.typePieces names) sh.world).1 },
          match (World.print out (sh.typePieces names) sh.world).2 with
          | none => .ok (if ∃ name ∈ names, sh.typeLine name = unknownLine name then 1 else 0)
          | some cause => .error (.output Builtin.type.name cause)) ∧
      (sh.typePieces names).flatten = names.flatMap sh.typeLine ∧
      (sh.world.Accepting →
        sh.world.Prints (names.flatMap fun name => Utf8.encode (sh.typeLine name))
          (World.print .own (sh.typePieces names) sh.world)) ∧
      ∀ (run : Runner) (c : Command),
        (sh.typeLine c.name = builtinLine c.name ↔ RunsBuiltin run c sh) ∧
        (∀ path, sh.typeLine c.name = programLine c.name path ∧ path ≠ builtinMark ↔
          Launches run c path sh) ∧
        (sh.typeLine c.name = unknownLine c.name ↔ RunsNothing run c sh) := by
  refine ⟨?_, flatten_typePieces sh names, fun ha => ?_, fun run c => ⟨?_, fun path => ?_, ?_⟩⟩
  · have hfull : ¬ names.isEmpty = true := by simpa using hn
    rw [runBuiltin, typeNames, if_neg hfull, typeEach_eq, typeCode_eq]
  · have hbytes : (sh.typePieces names).flatMap Utf8.encode =
        names.flatMap fun name => Utf8.encode (sh.typeLine name) := by
      rw [← Utf8.encode_flatten, flatten_typePieces, Utf8.encode, List.flatMap_assoc]
      rfl
    rw [← hbytes]
    exact World.print_prints ha _
  · rw [typeLine_eq_builtinLine, runsBuiltin_iff]
  · rw [typeLine_eq_programLine, launches_iff]
  · rw [typeLine_eq_unknownLine, runsNothing_iff]

def sampleNames : List Text := ["echo", "nosuch", "dash"]

theorem type_foretells_sample :
    sampleNames ≠ [] ∧ sampleShell.world.Accepting ∧
      (sampleShell.runBuiltin .type sampleNames .own).2 = .ok 1 ∧
      (sampleShell.runBuiltin .type sampleNames .own).1.world.printed =
        Utf8.encode "echo is a shell builtin\nnosuch: not found\ndash is /bin/dash\n".toList ∧
      RunsBuiltin idleRunner ⟨"echo", ["a"]⟩ sampleShell ∧
      RunsNothing idleRunner ⟨"nosuch", []⟩ sampleShell ∧
      Launches idleRunner ⟨"dash", ["a"]⟩ "/bin/dash" sampleShell := by
  have hn : sampleNames ≠ [] := by decide
  have ha : sampleShell.world.Accepting := sampleWorld_accepting _
  obtain ⟨hrun, -, hprints, hruns⟩ := type_foretells sampleNames hn .own sampleShell
  obtain ⟨w, hprint, -, hprinted⟩ := hprints ha
  refine ⟨hn, ha, ?_, ?_, ?_, ?_, ?_⟩
  · have hunknown : ∃ name ∈ sampleNames, sampleShell.typeLine name = unknownLine name :=
      ⟨"nosuch", by decide, by decide +kernel⟩
    rw [hrun, hprint, if_pos hunknown]
  · rw [hrun, hprint]
    dsimp only
    rw [hprinted]
    decide +kernel
  · exact (hruns idleRunner ⟨"echo", ["a"]⟩).1.1 (by decide +kernel)
  · exact (hruns idleRunner ⟨"nosuch", []⟩).2.2.1 (by decide +kernel)
  · exact ((hruns idleRunner ⟨"dash", ["a"]⟩).2.1 "/bin/dash").1 (by decide +kernel)

end Shell
end CommandShell
