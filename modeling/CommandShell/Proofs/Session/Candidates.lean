import CommandShell.Proofs.Text.RoundTrip
import CommandShell.Session.Lookup
/-! The search for a program in characters. On a disk it finds what the search in bytes finds. -/
namespace CommandShell

variable {d : Disk} {cwd : Place} {search name currentDir : Text}

namespace Utf8

variable {t : Text} {b : UInt8}

theorem encode_eq_nil : encode t = [] ↔ t = [] := by
  constructor
  · intro h
    rw [← decode_encode t, h]
    rfl
  · rintro rfl
    rfl

theorem mem_encode_iff (hb : b.toNat < 0x80) : b ∈ encode t ↔ Char.ofNat b.toNat ∈ t := by
  refine ⟨fun h => mem_of_mem_encode h hb, fun h => ?_⟩
  obtain ⟨as, bs, rfl⟩ := List.append_of_mem h
  rw [encode_append, ← List.singleton_append, encode_append, encode_ascii hb]
  exact List.mem_append_right _ (List.mem_append_left _ (List.mem_singleton_self b))

theorem head?_encode (hb : b.toNat < 0x80) :
    (encode t).head? = some b ↔ t.head? = some (Char.ofNat b.toNat) := by
  constructor
  · intro h
    obtain ⟨rest, hrest⟩ := List.head?_eq_some_iff.1 h
    rw [← decode_encode t, hrest]
    exact congrArg List.head? (decode_append_ascii [] hb rest)
  · intro h
    obtain ⟨rest, rfl⟩ := List.head?_eq_some_iff.1 h
    rw [← List.singleton_append, encode_append, encode_ascii hb]
    rfl

theorem getLast?_encode (hb : b.toNat < 0x80) :
    (encode t).getLast? = some b ↔ t.getLast? = some (Char.ofNat b.toNat) := by
  constructor
  · intro h
    obtain ⟨front, hfront⟩ := List.getLast?_eq_some_iff.1 h
    rw [← decode_encode t, hfront, decode_append_ascii front hb]
    exact List.getLast?_concat
  · intro h
    obtain ⟨front, rfl⟩ := List.getLast?_eq_some_iff.1 h
    rw [encode_append, encode_ascii hb, List.getLast?_concat]

theorem joinBy_encode (base p : Text) :
    Path.joinBy 0x2F (encode base) (encode p) = encode (Path.join base p) := by
  have hb : (0x2F : UInt8).toNat < 0x80 := by decide
  have hslash : encode ['/'] = [0x2F] := encode_ascii hb
  have habs : (encode p).head? = some 0x2F ↔ p.head? = some '/' := head?_encode hb
  have hopen : encode base = [] ∨ (encode base).getLast? = some 0x2F ↔
      base = [] ∨ base.getLast? = some '/' := or_congr encode_eq_nil (getLast?_encode hb)
  rw [Path.join, Path.joinBy, Path.joinBy]
  by_cases ha : p.head? = some '/'
  · rw [if_pos (habs.2 ha), if_pos ha]
  · rw [if_neg (mt habs.1 ha), if_neg ha]
    by_cases ho : base = [] ∨ base.getLast? = some '/'
    · rw [if_pos (hopen.2 ho), if_pos ho, encode_append]
    · rw [if_neg (mt hopen.1 ho), if_neg ho, encode_append, encode_append, hslash]

end Utf8

/-- The paths at which a name may stand for a program, as text. -/
def candidates (search name currentDir : Text) : List Text :=
  candidatesBy '/' ':' search name currentDir

theorem candidates_eq (search name currentDir : Text) : candidates search name currentDir =
    if name = [] then []
    else if '/' ∈ name then [Path.join currentDir name]
    else (searchDirectories ':' search).map fun dir =>
      Path.join (Path.join currentDir dir) name := rfl

theorem searchDirectories_encode (search : Text) :
    searchDirectories 0x3A (Utf8.encode search) =
      (searchDirectories ':' search).map Utf8.encode := by
  have hb : (0x3A : UInt8).toNat < 0x80 := by decide
  have hempty : ((!·.isEmpty) ∘ Utf8.encode : Text → Bool) = (!·.isEmpty) := by
    funext t
    rw [Function.comp_apply, Bool.eq_iff_iff]
    simp [Utf8.encode_eq_nil]
  rw [searchDirectories, Utf8.splitOn_encode search hb, List.filter_map, hempty]
  rfl

theorem candidatesBy_encode (search name currentDir : Text) :
    candidatesBy 0x2F 0x3A (Utf8.encode search) (Utf8.encode name) (Utf8.encode currentDir) =
      (candidates search name currentDir).map Utf8.encode := by
  have hb : (0x2F : UInt8).toNat < 0x80 := by decide
  have hslash : (0x2F : UInt8) ∈ Utf8.encode name ↔ '/' ∈ name := Utf8.mem_encode_iff hb
  rw [candidatesBy, candidates_eq]
  simp only [Utf8.encode_eq_nil, hslash, Utf8.joinBy_encode]
  split
  · rfl
  · split
    · rfl
    · rw [searchDirectories_encode, List.map_map, List.map_map]
      refine List.map_congr_left fun dir _ => ?_
      simp only [Function.comp_apply, Utf8.joinBy_encode]

/-- A path leads to an executable file. -/
def Disk.isExecutable (d : Disk) (user : Place) (path : Text) : Bool :=
  match d.find user path with
  | .ok (_, e) => e.isExecutable
  | .error _ => false

theorem Disk.status_encode (d : Disk) (cwd : Place) (path : Text) :
    d.status cwd (Utf8.encode path) = (d.find cwd path).toOption.map (·.2) := by
  rw [status, Utf8.decode?_encode]
  rfl

theorem Disk.isExecutable_eq (d : Disk) (cwd : Place) (path : Text) :
    d.isExecutable cwd path = (d.status cwd (Utf8.encode path)).any (·.isExecutable) := by
  rw [isExecutable, status_encode]
  cases d.find cwd path with
  | error f => rfl
  | ok p => rfl

theorem findCommand?_encode (d : Disk) (cwd : Place) (search name currentDir : Text) :
    findCommand? (d.status cwd) (Utf8.encode search) (Utf8.encode name) (Utf8.encode currentDir) =
      ((candidates search name currentDir).find? (d.isExecutable cwd)).map Utf8.encode := by
  have hprobe : (fun path => (d.status cwd path).any (·.isExecutable)) ∘ Utf8.encode =
      d.isExecutable cwd := funext fun path => (d.isExecutable_eq cwd path).symm
  rw [findCommand?, candidatesBy_encode, List.find?_map, hprobe]

theorem findProgram?_eq (d : Disk) (cwd : Place) (search name currentDir : Text) :
    findProgram? d cwd search name currentDir =
      (candidates search name currentDir).find? (d.isExecutable cwd) := by
  have hdecode : Utf8.decode ∘ Utf8.encode = id := funext Utf8.decode_encode
  rw [findProgram?, findCommand?_encode, Option.map_map, hdecode, Option.map_id_apply]

theorem encode_findProgram? (d : Disk) (cwd : Place) (search name currentDir : Text) :
    (findProgram? d cwd search name currentDir).map Utf8.encode =
      findCommand? (d.status cwd) (Utf8.encode search) (Utf8.encode name)
        (Utf8.encode currentDir) := by
  rw [findProgram?_eq, findCommand?_encode]

end CommandShell
