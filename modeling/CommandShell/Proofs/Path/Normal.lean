import CommandShell.Proofs.Path.Plain
import Mathlib.Data.List.Induction
import Mathlib.Logic.Relation
/-! What a path is shortened to while only its text counts. A step that can be done without is taken
out until there is none, and it does not matter which goes first. -/
namespace CommandShell.Path

variable {p q : Text} {c : Component} {cs ds : List Component} {absolute : Bool}

/-- A dot can be done without, a name that is left again, and the way up from the root. -/
inductive Shortens : List Component → List Component → Prop
  | dot (cs ds : List Component) : Shortens (cs ++ .current :: ds) (cs ++ ds)
  | name (cs : List Component) (n : Text) (ds : List Component) :
      Shortens (cs ++ .name n :: .parent :: ds) (cs ++ ds)
  | root (cs ds : List Component) : Shortens (cs ++ .root :: .parent :: ds) (cs ++ .root :: ds)

/-- Some steps are taken out, one after another. -/
abbrev ShortensTo : List Component → List Component → Prop := Relation.ReflTransGen Shortens

/-- Names from the root on, or first some `..` and then names. -/
inductive Normal : Bool → List Component → Prop
  | absolute {names : List Text} (h : ∀ n ∈ names, IsPlain n) :
      Normal true (.root :: names.map .name)
  | relative (ups : Nat) {names : List Text} (h : ∀ n ∈ names, IsPlain n) :
      Normal false (List.replicate ups .parent ++ names.map .name)

/-- A step on a stack shortens the path that begins with what is on the stack, or leaves it. -/
theorem shortensTo_advance (stack : List Component) (c : Component) (cs : List Component) :
    ShortensTo (stack.reverse ++ c :: cs) ((advance stack c).reverse ++ cs) := by
  have pushed : ∀ c, ShortensTo (stack.reverse ++ c :: cs) ((c :: stack).reverse ++ cs) := by
    intro c
    rw [List.reverse_cons, List.append_assoc, List.singleton_append]
  cases c with
  | root => exact pushed .root
  | name n => exact pushed (.name n)
  | current => exact .single (.dot stack.reverse cs)
  | parent =>
    cases stack with
    | nil => exact pushed .parent
    | cons top rest =>
      have hsplit : (top :: rest).reverse ++ .parent :: cs = rest.reverse ++ top :: .parent :: cs := by
        simp
      cases top with
      | current => exact pushed .parent
      | parent => exact pushed .parent
      | name n =>
        rw [hsplit]
        exact .single (.name rest.reverse n cs)
      | root =>
        have hroot : (advance (.root :: rest) .parent).reverse ++ cs = rest.reverse ++ .root :: cs := by
          simp [advance]
        rw [hsplit, hroot]
        exact .single (.root rest.reverse cs)

theorem shortensTo_foldl (stack cs : List Component) :
    ShortensTo (stack.reverse ++ cs) (cs.foldl advance stack).reverse := by
  induction cs generalizing stack with
  | nil =>
    rw [List.append_nil]
    exact .refl
  | cons c cs ih => exact (shortensTo_advance stack c cs).trans (ih (advance stack c))

theorem shortensTo_collapse (cs : List Component) : ShortensTo cs (collapse cs) :=
  shortensTo_foldl [] cs

/-- Taking a step out makes no difference to what is left in the end. -/
theorem collapse_of_shortens (h : Shortens cs ds) : collapse cs = collapse ds := by
  cases h <;> simp [collapse, advance]

theorem collapse_of_shortensTo (h : ShortensTo cs ds) : collapse cs = collapse ds := by
  induction h with
  | refl => rfl
  | tail _ h ih => exact ih.trans (collapse_of_shortens h)

theorem foldl_advance_names (names : List Text) (stack : List Component) :
    (names.map .name).foldl advance stack = (names.map .name).reverse ++ stack := by
  induction names generalizing stack with
  | nil => rfl
  | cons n names ih => simp [ih, advance]

theorem advance_parents (ups : Nat) :
    advance (List.replicate ups .parent) .parent = List.replicate (ups + 1) .parent := by
  cases ups <;> rfl

theorem foldl_advance_parents (ups : Nat) :
    (List.replicate ups .parent).foldl advance [] = List.replicate ups .parent := by
  induction ups with
  | zero => rfl
  | succ ups ih =>
    rw [List.replicate_succ', List.foldl_append, ih, ← List.replicate_succ']
    exact advance_parents ups

theorem Normal.foldl_advance (h : Normal absolute cs) : cs.foldl advance [] = cs.reverse := by
  cases h with
  | absolute h =>
    rw [List.foldl_cons, foldl_advance_names, List.reverse_cons]
    rfl
  | relative ups h =>
    rw [List.foldl_append, foldl_advance_parents, foldl_advance_names, List.reverse_append,
      List.reverse_replicate]

theorem Normal.collapse_eq (h : Normal absolute cs) : collapse cs = cs := by
  rw [collapse, h.foldl_advance, List.reverse_reverse]

theorem isPlain_of_mem_concat {names : List Text} {n : Text} (h : ∀ m ∈ names, IsPlain m)
    (hn : IsPlain n) : ∀ m ∈ names ++ [n], IsPlain m := by
  intro m hm
  rcases List.mem_append.1 hm with hm | hm
  · exact h m hm
  · rw [List.mem_singleton.1 hm]
    exact hn

theorem Normal.enter {n : Text} (h : Normal absolute cs) (hn : IsPlain n) :
    Normal absolute (cs ++ [.name n]) := by
  cases h with
  | absolute h => simpa using Normal.absolute (isPlain_of_mem_concat h hn)
  | relative ups h => simpa using Normal.relative ups (isPlain_of_mem_concat h hn)

/-- From a normal form `..` leads to the one without the last name. Without a name it stays at the
root and is one more `..` elsewhere. -/
theorem Normal.leave (h : Normal absolute cs) :
    Normal absolute (advance cs.reverse .parent).reverse := by
  have dropped : ∀ (front : List Component) (n : Text),
      (advance (front ++ [Component.name n]).reverse .parent).reverse = front := by
    intro front n
    simp [advance]
  cases h with
  | @absolute names h =>
    induction names using List.reverseRecOn with
    | nil => exact .absolute h
    | append_singleton front n =>
      rw [List.map_append, ← List.cons_append, List.map_singleton, dropped]
      exact .absolute fun m hm => h m (List.mem_append_left _ hm)
  | @relative ups names h =>
    induction names using List.reverseRecOn with
    | nil =>
      rw [List.map_nil, List.append_nil, List.reverse_replicate, advance_parents,
        List.reverse_replicate]
      simpa using Normal.relative (ups + 1) h
    | append_singleton front n =>
      rw [List.map_append, ← List.append_assoc, List.map_singleton, dropped]
      exact .relative ups fun m hm => h m (List.mem_append_left _ hm)

/-- One more step on a stack in normal form leaves it in normal form. -/
theorem Normal.step (h : Normal absolute cs) (hc : c = .current ∨ IsStep c) :
    Normal absolute (advance cs.reverse c).reverse := by
  rcases hc with rfl | rfl | ⟨n, rfl, hn⟩
  · rwa [advance, List.reverse_reverse]
  · exact h.leave
  · rw [advance, List.reverse_cons, List.reverse_reverse]
    · exact h.enter hn
    · nofun
    · nofun

theorem Normal.foldl (h : Normal absolute cs) (hds : ∀ d ∈ ds, d = .current ∨ IsStep d) :
    Normal absolute (ds.foldl advance cs.reverse).reverse := by
  induction ds generalizing cs with
  | nil => rwa [List.foldl_nil, List.reverse_reverse]
  | cons d ds ih =>
    have hnext := ih (h.step (hds d (List.mem_cons_self ..)))
      fun d' hd' => hds d' (List.mem_cons_of_mem d hd')
    rwa [List.reverse_reverse] at hnext

theorem ofComponents_steps (h : ∀ c ∈ cs, IsStep c) :
    ofComponents cs = Text.join ['/'] (cs.map Component.text) := by
  cases cs with
  | nil => rfl
  | cons c cs =>
    rcases h c (List.mem_cons_self ..) with rfl | ⟨n, rfl, -⟩
    · rfl
    · rfl

theorem filterMap_ofSegment?_texts (h : ∀ c ∈ cs, IsStep c) :
    (cs.map Component.text).filterMap Component.ofSegment? = cs := by
  induction cs with
  | nil => rfl
  | cons c cs ih =>
    rw [List.map_cons, List.filterMap_cons_some (ofSegment?_text (h c (List.mem_cons_self ..))),
      ih fun d hd => h d (List.mem_cons_of_mem c hd)]

theorem steps_join_texts (h : ∀ c ∈ cs, IsStep c) :
    (segments (Text.join ['/'] (cs.map Component.text))).filterMap Component.ofSegment? = cs := by
  rw [segments_join_texts h]
  split
  · rename_i hnil
    rw [hnil]
    rfl
  · exact filterMap_ofSegment?_texts h

/-- The first stretch is a step, so the path is relative and starts with no dot. -/
theorem relative_join_texts (h : ∀ c ∈ cs, IsStep c) :
    isAbsolute (Text.join ['/'] (cs.map Component.text)) = false ∧
      (segments (Text.join ['/'] (cs.map Component.text))).head? ≠ some ['.'] := by
  cases cs with
  | nil => exact ⟨rfl, by decide⟩
  | cons c cs =>
    have hsegments := segments_join_texts h
    have hc := ofSegment?_text (h c (List.mem_cons_self ..))
    rw [if_neg (List.cons_ne_nil c cs), List.map_cons] at hsegments
    constructor
    · cases hjoin : Text.join ['/'] ((c :: cs).map Component.text) with
      | nil => rfl
      | cons x t =>
        by_cases hx : x = '/'
        · rw [List.map_cons] at hjoin
          rw [hjoin, hx, segments_cons_slash] at hsegments
          have hnil : c.text = [] := (List.cons.inj hsegments).1.symm
          rw [hnil] at hc
          cases hc
        · simpa [isAbsolute] using hx
    · rw [List.map_cons, hsegments, List.head?_cons, Ne, Option.some.injEq]
      intro hdot
      rw [hdot] at hc
      cases hc

theorem components_steps (h : ∀ c ∈ cs, IsStep c) : components (ofComponents cs) = cs := by
  obtain ⟨hrel, hhead⟩ := relative_join_texts h
  rw [ofComponents_steps h, components, hrel, if_neg Bool.false_ne_true, if_neg hhead,
    steps_join_texts h]

theorem components_rooted (h : ∀ c ∈ cs, IsStep c) :
    components (ofComponents (.root :: cs)) = .root :: cs := by
  rw [ofComponents, components_absolute rfl, segments_cons_slash, List.filterMap_cons_none rfl,
    steps_join_texts h]

theorem isStep_of_mem_relative {names : List Text} (ups : Nat) (h : ∀ n ∈ names, IsPlain n) :
    ∀ c ∈ List.replicate ups .parent ++ names.map Component.name, IsStep c := by
  intro c hc
  rcases List.mem_append.1 hc with hc | hc
  · exact Or.inl (List.eq_of_mem_replicate hc)
  · exact isStep_of_mem_names h c hc

/-- A normal form is read again from the path that it is written as. -/
theorem Normal.components_ofComponents (h : Normal absolute cs) :
    components (ofComponents cs) = cs := by
  cases h with
  | absolute h => exact components_rooted (isStep_of_mem_names h)
  | relative ups h => exact components_steps (isStep_of_mem_relative ups h)

theorem Normal.isAbsolute_ofComponents (h : Normal absolute cs) :
    isAbsolute (ofComponents cs) = absolute := by
  cases h with
  | absolute h => rfl
  | relative ups h =>
    have hsteps := isStep_of_mem_relative ups h
    rw [ofComponents_steps hsteps]
    exact (relative_join_texts hsteps).1

theorem normal_collapse (p : Text) : Normal (isAbsolute p) (collapse (components p)) := by
  have hsteps : ∀ c ∈ (segments p).filterMap Component.ofSegment?, c = .current ∨ IsStep c :=
    fun c hc => Or.inr (isStep_of_mem_segments p c hc)
  have hnone : ∀ n ∈ ([] : List Text), IsPlain n := fun _ hn => absurd hn List.not_mem_nil
  unfold components
  cases isAbsolute p with
  | true => exact (Normal.absolute hnone).foldl hsteps
  | false =>
    rw [if_neg Bool.false_ne_true]
    split
    · refine (Normal.relative 0 hnone).foldl fun c hc => ?_
      rcases List.mem_cons.1 hc with rfl | hc
      · exact Or.inl rfl
      · exact hsteps c hc
    · exact (Normal.relative 0 hnone).foldl hsteps

theorem isAbsolute_normalize_eq (p : Text) : isAbsolute (normalize p) = isAbsolute p :=
  (normal_collapse p).isAbsolute_ofComponents

theorem components_normalize (p : Text) : components (normalize p) = collapse (components p) :=
  (normal_collapse p).components_ofComponents

theorem foldl_advance_collapse (p : Text) :
    (collapse (components p)).foldl advance [] = (components p).foldl advance [] := by
  rw [(normal_collapse p).foldl_advance, collapse, List.reverse_reverse]

theorem stem_ne_nil (base : Text) : stem base ≠ [] := by
  unfold stem
  split
  · exact List.splitOn_ne_nil '/' base.dropLast
  · exact List.splitOn_ne_nil '/' base

theorem head?_stem (base : Text) (rest : List Text) :
    (stem base ++ rest).head? = (segments base).head? := by
  obtain ⟨s, ss, hs⟩ := List.exists_cons_of_ne_nil (stem_ne_nil base)
  rcases segments_eq_stem base with he | he
  · rw [he, hs]
    rfl
  · rw [he, hs]
    rfl

theorem steps_stem (base : Text) :
    (stem base).filterMap Component.ofSegment? = (segments base).filterMap Component.ofSegment? := by
  rcases segments_eq_stem base with he | he
  · rw [he]
  · rw [he, List.filterMap_append]
    simp [Component.ofSegment?]

/-- A path seen from a base has the steps of both. -/
theorem components_join (hp : p ≠ []) (hq : isAbsolute q = false) :
    components (join p q) = components p ++ (segments q).filterMap Component.ofSegment? := by
  have habs : isAbsolute (join p q) = isAbsolute p := by
    cases h : isAbsolute p with
    | true => exact isAbsolute_join h q
    | false => exact isAbsolute_join_eq_false hp h hq
  unfold components
  simp only [habs, segments_join hp hq, head?_stem, List.filterMap_append, steps_stem]
  split
  · rfl
  · split
    · rfl
    · rfl

/-- Nothing but the steps of a relative path counts, wherever it is seen from. -/
theorem foldl_advance_join (p : Text) (hq : isAbsolute q = false) :
    (components (join p q)).foldl advance [] =
      ((segments q).filterMap Component.ofSegment?).foldl advance ((components p).foldl advance []) := by
  by_cases hp : p = []
  · subst hp
    have hnil : components [] = [] := by decide
    rw [join_nil_left, hnil, components, hq, if_neg Bool.false_ne_true]
    split
    · rfl
    · rfl
  · rw [components_join hp hq, List.foldl_append]

/-- A path is seen alike from a base whether or not the base is normalized. -/
theorem normalize_join_normalize (p : Text) (hq : isAbsolute q = false) :
    normalize (join (normalize p) q) = normalize (join p q) := by
  rw [normalize, collapse, foldl_advance_join _ hq, components_normalize, foldl_advance_collapse,
    ← foldl_advance_join p hq]
  rfl

/-- A path is normalized to what it can be shortened to and no further: a path of names from the root,
or one of some `..` and then names, empty if nothing is left. That is the only such path it can be
shortened to, so a path in this form stays as it is, and what is seen from a path is seen alike from
the normalized one. -/
theorem normalize_normal (p : Text) :
    isAbsolute (normalize p) = isAbsolute p ∧
      Normal (isAbsolute p) (components (normalize p)) ∧
      (normalize p = [] ↔ components (normalize p) = []) ∧
      (∀ absolute cs, Normal absolute cs →
        (ShortensTo (components p) cs ↔ cs = components (normalize p))) ∧
      normalize (normalize p) = normalize p ∧
      (∀ absolute, Normal absolute (components p) → components (normalize p) = components p) ∧
      ∀ q, isAbsolute q = false → normalize (join p q) = normalize (join (normalize p) q) := by
  have hnormal := normal_collapse p
  have hcs := components_normalize p
  refine ⟨isAbsolute_normalize_eq p, by rwa [hcs], ⟨?_, ?_⟩, ?_, ?_, ?_, ?_⟩
  · intro hnil
    rw [hnil]
    decide
  · intro hnil
    rw [normalize, ← hcs, hnil]
    rfl
  · intro absolute cs hn
    rw [hcs]
    constructor
    · intro hshort
      rw [collapse_of_shortensTo hshort, hn.collapse_eq]
    · rintro rfl
      exact shortensTo_collapse _
  · rw [normalize, hcs, hnormal.collapse_eq]
    rfl
  · intro absolute hn
    rw [hcs, hn.collapse_eq]
  · intro q hq
    exact (normalize_join_normalize p hq).symm

/-- The path leads above where it starts, and names, dots and slashes go from it. -/
theorem normalize_normal_sample :
    normalize "./a/../../b//c/" = ("../b/c" : Text) ∧
      ShortensTo (components "./a/../../b//c/") [.parent, .name "b", .name "c"] ∧
      normalize (join "./a/../../b//c/" "../d") = normalize (join "../b/c" "../d") := by
  have hp : normalize "./a/../../b//c/" = ("../b/c" : Text) := by decide
  have hcs : components "../b/c" = [.parent, .name "b", .name "c"] := by decide
  obtain ⟨-, hnormal, -, hshort, -, -, hjoin⟩ := normalize_normal "./a/../../b//c/"
  have hq := hjoin "../d" (by decide)
  rw [hp] at hnormal hshort hq
  refine ⟨hp, ?_, hq⟩
  rw [← hcs]
  exact (hshort _ _ hnormal).2 rfl

end CommandShell.Path
