import CommandShell.Disk.Placement
import CommandShell.Program
import CommandShell.Proofs.Session.Candidates
/-! The program that a name stands for is the one of the first segment of the search path that has
one. -/
namespace CommandShell

variable {status : Bytes → Option Entry} {search name currentDir path : Bytes} {i : Nat}

/-- The bits of a mode that let the owner, the group or others execute a file. -/
def executeBits : Nat := 0o111

theorem executable_mode_iff (mode : Nat) :
    (mode.testBit 6 || mode.testBit 3 || mode.testBit 0) = true ↔ mode &&& executeBits ≠ 0 := by
  constructor
  · intro h hzero
    have hnone : ∀ i, executeBits.testBit i = true → mode.testBit i = false := by
      intro i hi
      have hand := Nat.testBit_and mode executeBits i
      rwa [hzero, Nat.zero_testBit, hi, Bool.and_true, eq_comm] at hand
    rw [hnone 6 (by decide), hnone 3 (by decide), hnone 0 (by decide)] at h
    cases h
  · intro h
    obtain ⟨i, hi⟩ := Nat.exists_testBit_of_ne_zero h
    rw [Nat.testBit_and, Bool.and_eq_true] at hi
    obtain ⟨hmode, hexec⟩ := hi
    have hlt : i < 7 := by
      refine Nat.lt_of_not_le fun hle => ?_
      have hsmall : executeBits < 2 ^ i :=
        Nat.lt_of_lt_of_le (by decide : executeBits < 2 ^ 7) (Nat.pow_le_pow_right (by decide) hle)
      rw [Nat.testBit_lt_two_pow hsmall] at hexec
      cases hexec
    have hall : ∀ i < 7, executeBits.testBit i = true → i = 6 ∨ i = 3 ∨ i = 0 := by decide
    rw [Bool.or_eq_true, Bool.or_eq_true, or_assoc]
    rcases hall i hlt hexec with rfl | rfl | rfl
    · exact .inl hmode
    · exact .inr (.inl hmode)
    · exact .inr (.inr hmode)

theorem Entry.isExecutable_iff {e : Entry} : e.isExecutable = true ↔
    (e.node = .file ∨ e.node = .interpreter) ∧ e.mode &&& executeBits ≠ 0 := by
  rw [isExecutable, Bool.and_eq_true, executable_mode_iff, isRegular, Bool.or_eq_true,
    decide_eq_true_eq, decide_eq_true_eq]

/-- A path to a regular file that somebody may execute, by what the system tells. -/
def IsProgram (status : Bytes → Option Entry) (path : Bytes) : Prop :=
  ∃ e, status path = some e ∧ (e.node = .file ∨ e.node = .interpreter) ∧
    e.mode &&& executeBits ≠ 0

theorem isProgram_iff :
    (status path).any (·.isExecutable) = true ↔ IsProgram status path := by
  simp only [IsProgram, Option.any_eq_true, Entry.isExecutable_iff]

/-- What the system tells of a path on a disk is told of the end of the links that it leads to. -/
theorem Disk.isProgram_encode {d : Disk} {cwd : Place} {path : Text} :
    IsProgram (d.status cwd) (Utf8.encode path) ↔
      ∃ l e, d.find cwd path = .ok (l, e) ∧ (e.node = .file ∨ e.node = .interpreter) ∧
        e.mode &&& executeBits ≠ 0 := by
  rw [IsProgram, status_encode]
  cases d.find cwd path with
  | error f =>
    constructor
    · rintro ⟨_, he, _⟩
      cases he
    · rintro ⟨_, _, hf, _⟩
      cases hf
  | ok p =>
    constructor
    · rintro ⟨_, ⟨rfl⟩, h⟩
      exact ⟨p.1, p.2, rfl, h⟩
    · rintro ⟨_, _, ⟨rfl⟩, h⟩
      exact ⟨_, rfl, h⟩

/-- The path that a bare name has by the segment of this number, counted from zero. -/
def CandidateAt (search name currentDir : Bytes) (i : Nat) (path : Bytes) : Prop :=
  ∃ dir, (search.splitOn 0x3A)[i]? = some dir ∧ dir ≠ [] ∧
    path = Path.joinBy 0x2F (Path.joinBy 0x2F currentDir dir) name

/-- The path that a bare name has in the directory of one segment. An empty segment has none. -/
def candidate? (name currentDir segment : Bytes) : Option Bytes :=
  if segment = [] then none
  else some (Path.joinBy 0x2F (Path.joinBy 0x2F currentDir segment) name)

theorem candidateAt_iff : CandidateAt search name currentDir i path ↔
    ∃ segment, (search.splitOn 0x3A)[i]? = some segment ∧
      candidate? name currentDir segment = some path := by
  simp only [CandidateAt, candidate?, Option.ite_none_left_eq_some, Option.some_inj, ne_eq,
    eq_comm (a := path)]

theorem candidatesBy_bare (hn : name ≠ []) (hs : 0x2F ∉ name) (search currentDir : Bytes) :
    candidatesBy 0x2F 0x3A search name currentDir =
      (search.splitOn 0x3A).filterMap (candidate? name currentDir) := by
  have hcandidate : candidate? name currentDir = fun segment =>
      if (!segment.isEmpty) = true then
        some (Path.joinBy 0x2F (Path.joinBy 0x2F currentDir segment) name)
      else none := by
    funext segment
    cases segment with
    | nil => rfl
    | cons b bs => rfl
  rw [candidatesBy, if_neg hn, if_neg hs, searchDirectories, ← List.filterMap_eq_map,
    List.filterMap_filter, hcandidate]
  rfl

theorem findCommand?_slash (hs : 0x2F ∈ name) (search : Bytes) :
    findCommand? status search name currentDir = some path ↔
      path = Path.joinBy 0x2F currentDir name ∧ IsProgram status path := by
  rw [findCommand?, candidatesBy, if_neg (List.ne_nil_of_mem hs), if_pos hs, List.find?_singleton,
    ← isProgram_iff]
  constructor
  · intro h
    split at h
    · obtain rfl := Option.some.inj h
      exact ⟨rfl, ‹_›⟩
    · cases h
  · rintro ⟨rfl, h⟩
    rw [if_pos h]

theorem findCommand?_none (hn : name ≠ []) (hs : 0x2F ∉ name) :
    findCommand? status search name currentDir = none ↔
      ∀ i path, CandidateAt search name currentDir i path → ¬ IsProgram status path := by
  rw [findCommand?, candidatesBy_bare hn hs, List.find?_eq_none]
  constructor
  · intro h i path hpath hprogram
    obtain ⟨segment, hsegment, hcandidate⟩ := candidateAt_iff.1 hpath
    have hmem : path ∈ (search.splitOn 0x3A).filterMap (candidate? name currentDir) :=
      List.mem_filterMap.2 ⟨segment, List.mem_of_getElem? hsegment, hcandidate⟩
    exact h path hmem (isProgram_iff.2 hprogram)
  · intro h path hpath hexecutable
    obtain ⟨segment, hsegment, hcandidate⟩ := List.mem_filterMap.1 hpath
    obtain ⟨i, hi⟩ := List.mem_iff_getElem?.1 hsegment
    exact h i path (candidateAt_iff.2 ⟨segment, hi, hcandidate⟩) (isProgram_iff.1 hexecutable)

theorem findCommand?_some (hn : name ≠ []) (hs : 0x2F ∉ name) :
    findCommand? status search name currentDir = some path ↔
      ∃ i, CandidateAt search name currentDir i path ∧ IsProgram status path ∧
        ∀ j < i, ∀ other, CandidateAt search name currentDir j other →
          ¬ IsProgram status other := by
  rw [findCommand?, candidatesBy_bare hn hs, List.find?_filterMap, Option.bind_eq_some_iff]
  simp only [List.find?_eq_some_iff_getElem]
  constructor
  · rintro ⟨segment, ⟨hany, i, hi, hsegment, hbefore⟩, hcandidate⟩
    rw [hcandidate, Option.any_some] at hany
    refine ⟨i, candidateAt_iff.2 ⟨segment, List.getElem?_eq_some_iff.2 ⟨hi, hsegment⟩, hcandidate⟩,
      isProgram_iff.1 hany, fun j hj other hother hprogram => ?_⟩
    obtain ⟨earlier, hearlier, hother⟩ := candidateAt_iff.1 hother
    obtain ⟨hlt, hearlier⟩ := List.getElem?_eq_some_iff.1 hearlier
    have hskipped := hbefore j hj
    rw [hearlier, hother, Option.any_some, isProgram_iff.2 hprogram] at hskipped
    cases hskipped
  · rintro ⟨i, hpath, hprogram, hbefore⟩
    obtain ⟨segment, hsegment, hcandidate⟩ := candidateAt_iff.1 hpath
    obtain ⟨hi, hsegment⟩ := List.getElem?_eq_some_iff.1 hsegment
    refine ⟨segment, ⟨?_, i, hi, hsegment, fun j hj => ?_⟩, hcandidate⟩
    · rw [hcandidate, Option.any_some, isProgram_iff.2 hprogram]
    · cases hother : candidate? name currentDir (search.splitOn 0x3A)[j] with
      | none => rfl
      | some other =>
        have hnone := hbefore j hj other
          (candidateAt_iff.2 ⟨_, List.getElem?_eq_getElem (Nat.lt_trans hj hi), hother⟩)
        rw [← isProgram_iff] at hnone
        simpa using hnone

theorem findCommand?_append (hn : name ≠ []) (hs : 0x2F ∉ name) (P Q : Bytes) :
    findCommand? status (P ++ 0x3A :: Q) name currentDir =
      (findCommand? status P name currentDir).or (findCommand? status Q name currentDir) := by
  simp only [findCommand?, candidatesBy_bare hn hs, List.splitOn_append_cons_self,
    List.filterMap_append, List.find?_append]

/-- A stretch of the search path without a program of that name may as well not be there. -/
theorem findCommand?_skip (hn : name ≠ []) (hs : 0x2F ∉ name) (P S Q : Bytes)
    (hnone : ∀ i path, CandidateAt S name currentDir i path → ¬ IsProgram status path) :
    findCommand? status (P ++ 0x3A :: (S ++ 0x3A :: Q)) name currentDir =
      findCommand? status (P ++ 0x3A :: Q) name currentDir := by
  rw [findCommand?_append hn hs, findCommand?_append hn hs S Q, (findCommand?_none hn hs).2 hnone,
    Option.none_or, findCommand?_append hn hs]

namespace Shell

/-- What the system tells about the disk of a session, seen from the place of its process. -/
def diskStatus (sh : Shell) : Bytes → Option Entry := sh.world.disk.status sh.world.cwd

/-- The search path of a session in bytes. None is like an empty one. -/
def searchPath (sh : Shell) : Bytes := Utf8.encode (sh.session.searchPath?.getD [])

theorem resolve?_encode (sh : Shell) (typed : Text) :
    (sh.resolve? typed).map Utf8.encode =
      findCommand? sh.diskStatus sh.searchPath (Utf8.encode typed)
        (Utf8.encode sh.session.currentDir) :=
  encode_findProgram? ..

/-- The session with another search path. -/
def searching (sh : Shell) (search : Text) : Shell :=
  { sh with session := { sh.session with vars := sh.session.vars.set "PATH" search } }

theorem searchPath?_searching (sh : Shell) (search : Text) :
    (sh.searching search).session.searchPath? = some search := by
  rw [Session.searchPath?, searching, Variables.get?, Variables.set, List.lookup_cons_self]

theorem resolve?_unset {sh : Shell} (h : sh.session.searchPath? = none) (typed : Text) :
    sh.resolve? typed = (sh.searching []).resolve? typed := by
  rw [resolve?, resolve?, h, searchPath?_searching]
  rfl

/-- A name with a slash is a path. Any other name is looked for in the segments of the search path,
and the first that has a program of this name decides. This is what a session does with its own
search path, directory and disk. -/
theorem program_found_first (status : Bytes → Option Entry) (name currentDir : Bytes) :
    let find := fun search => findCommand? status search name currentDir
    (name = [] → ∀ search, find search = none) ∧
      (0x2F ∈ name → ∀ search path, find search = some path ↔
        path = Path.joinBy 0x2F currentDir name ∧ IsProgram status path) ∧
      (name ≠ [] → 0x2F ∉ name →
        (∀ search path, find search = some path ↔
          ∃ i, CandidateAt search name currentDir i path ∧ IsProgram status path ∧
            ∀ j < i, ∀ other, CandidateAt search name currentDir j other →
              ¬ IsProgram status other) ∧
        (∀ search, find search = none ↔
          ∀ i path, CandidateAt search name currentDir i path → ¬ IsProgram status path) ∧
        (∀ P Q, find (P ++ 0x3A :: Q) = (find P).or (find Q)) ∧
        ∀ P S Q, (∀ i path, CandidateAt S name currentDir i path → ¬ IsProgram status path) →
          find (P ++ 0x3A :: (S ++ 0x3A :: Q)) = find (P ++ 0x3A :: Q)) ∧
      ∀ (sh : Shell) (typed : Text),
        (sh.resolve? typed).map Utf8.encode =
          findCommand? sh.diskStatus sh.searchPath (Utf8.encode typed)
            (Utf8.encode sh.session.currentDir) ∧
        (∀ path, IsProgram sh.diskStatus (Utf8.encode path) ↔
          ∃ l e, sh.world.disk.find sh.world.cwd path = .ok (l, e) ∧
            (e.node = .file ∨ e.node = .interpreter) ∧ e.mode &&& executeBits ≠ 0) ∧
        (sh.session.searchPath? = none →
          sh.resolve? typed = (sh.searching []).resolve? typed) := by
  refine ⟨?_, fun hs search path => findCommand?_slash hs search, fun hn hs => ?_,
    fun sh typed => ⟨sh.resolve?_encode typed, fun path => Disk.isProgram_encode,
      fun h => resolve?_unset h typed⟩⟩
  · rintro rfl search
    rfl
  · exact ⟨fun _ _ => findCommand?_some hn hs, fun _ => findCommand?_none hn hs,
      findCommand?_append hn hs, findCommand?_skip hn hs⟩

/-- A file that nobody may execute, and programs of the same name in two directories. The name of
the first of these is no text. -/
def rawPrograms : List (Bytes × Entry) :=
  [(Utf8.encode "/tmp/dash", ⟨2, fileMode, .file⟩),
    ([0x2F, 0xFF, 0x2F] ++ Utf8.encode "dash", ⟨3, 0o755, .file⟩),
    (Utf8.encode "/bin/dash", ⟨4, 0o755, .interpreter⟩)]

def rawStatus (path : Bytes) : Option Entry := rawPrograms.lookup path

/-- An empty segment, and a directory that is not there. -/
def idleSegments : Bytes := [0x3A, 0xFE]

def programSegments : Bytes := [0x2F, 0xFF, 0x3A] ++ Utf8.encode "bin"

/-- The session of a process without variables. -/
def unguided : Shell :=
  Session.inherit "/" (.fresh .standard (Disk.standard.place []) [] (.bytes []))

theorem dash_found_first :
    Utf8.encode "dash" ≠ [] ∧ 0x2F ∉ Utf8.encode "dash" ∧ 0x2F ∈ Utf8.encode "./bin/dash" ∧
      unguided.session.searchPath? = none ∧
      findCommand? rawStatus (idleSegments ++ 0x3A :: (Utf8.encode "/tmp" ++ 0x3A ::
        programSegments)) (Utf8.encode "dash") (Utf8.encode "/") =
          some ([0x2F, 0xFF, 0x2F] ++ Utf8.encode "dash") ∧
      findCommand? unguided.diskStatus [] (Utf8.encode "./bin/dash") (Utf8.encode "/") =
        some (Utf8.encode "/./bin/dash") ∧
      findCommand? rawStatus programSegments [] (Utf8.encode "/") = none ∧
      unguided.resolve? "dash" = none := by
  have hn : Utf8.encode "dash" ≠ [] := by decide +kernel
  have hs : 0x2F ∉ Utf8.encode "dash" := by decide +kernel
  have hslash : 0x2F ∈ Utf8.encode "./bin/dash" := by decide +kernel
  have hunset : unguided.session.searchPath? = none := by decide +kernel
  obtain ⟨-, -, hbare, hshell⟩ :=
    program_found_first rawStatus (Utf8.encode "dash") (Utf8.encode "/")
  obtain ⟨-, hnone, -, hskip⟩ := hbare hn hs
  obtain ⟨-, hpath, -, -⟩ :=
    program_found_first unguided.diskStatus (Utf8.encode "./bin/dash") (Utf8.encode "/")
  obtain ⟨hempty, -, -, -⟩ := program_found_first rawStatus [] (Utf8.encode "/")
  refine ⟨hn, hs, hslash, hunset, ?_, ?_, hempty rfl _, ?_⟩
  · have htmp := (hnone (Utf8.encode "/tmp")).1 (by decide +kernel)
    exact (hskip idleSegments (Utf8.encode "/tmp") programSegments htmp).trans (by decide +kernel)
  · have hexecutable : (unguided.diskStatus (Utf8.encode "/./bin/dash")).any
        (·.isExecutable) = true := by decide +kernel
    exact (hpath hslash [] _).2 ⟨by decide +kernel, isProgram_iff.1 hexecutable⟩
  · exact ((hshell unguided "dash").2.2 hunset).trans (by decide +kernel)

end Shell
end CommandShell
