import CommandShell.Proofs.Session.Failures
import CommandShell.Proofs.World.Stock
/-! What a line leaves on the disk that the shell executes by itself: its two targets, and what the
command wrote to them. -/
namespace CommandShell

/-- What a line asks for, be it nothing. -/
def CommandLine.ofLine (line : Text) : CommandLine := (parse? line).getD ⟨none, []⟩

theorem CommandLine.redirects_ofLine (line : Text) :
    (ofLine line).redirects = CommandShell.redirects (items (tokens line)) := by
  unfold ofLine parse?
  dsimp only
  split
  · rename_i he
    rw [Bool.and_eq_true] at he
    exact (List.isEmpty_iff.1 he.2).symm
  · rfl

namespace Shell

variable {sh : Shell} {l : CommandLine} {out err : Option Nat} {d₁ d₂ : Disk}

/-- The targets of output and errors, as far as there are any, can be opened one after the other.
They are different files, and none that the shell writes to by itself. -/
structure Supplied (l : CommandLine) (sh : Shell) (out err : Option Nat) (d₁ d₂ : Disk) : Prop where
  output : Provided sh.world.cwd sh.session.currentDir sh.world.disk
    (l.redirects.target? standardOutput) out d₁
  errors : Provided sh.world.cwd sh.session.currentDir d₁ (l.redirects.target? standardError) err d₂
  distinct : ∀ n, out = some n → err ≠ some n
  output_apart : ∀ n, out = some n → n ∉ sh.world.ownFiles out err
  errors_apart : ∀ n, err = some n → n ∉ sh.world.ownFiles out err

/-- Before a target is opened there are records only. -/
theorem aside_preamble (l : CommandLine) (sh : Shell) :
    World.Aside sh.world.recordFiles sh.world
      ((sh.world.note (.parsed l)).ignoreAll (l.redirects.below standardOutput)) := by
  have hparsed := World.aside_note sh.world (.parsed l)
  have hignored := World.aside_ignoreAll (l.redirects.below standardOutput)
    (sh.world.note (.parsed l))
  rw [hparsed.records] at hignored
  exact hparsed.trans hignored

/-- With all targets open the command has its files, and they are empty. -/
theorem Supplied.targets (h : Supplied l sh out err d₁ d₂) (hl : l.redirects.Ascending) :
    ∃ w o, sh.targets l = (w, .ok o) ∧ World.Apart (sh.world.ownFiles out err) o out err ∧
      World.Stocked d₂ (sh.world.ownFiles out err) o out err [] [] w := by
  have hbefore := aside_preamble l sh
  have hcwd : ((sh.world.note (.parsed l)).ignoreAll
      (l.redirects.below standardOutput)).cwd = sh.world.cwd :=
    (World.mutters_ignoreAll _ _).cwd.trans (World.mutters_note _ _).cwd
  have hrecords : sh.world.recordFiles ⊆ sh.world.ownFiles out err :=
    fun n hn => List.mem_append_left _ (List.mem_append_left _ hn)
  obtain ⟨w₁, output, hout, hd₁, hsame₁, hcwd₁, hholds, -⟩ :=
    World.openStream_provided h.output (hbefore.disk.mono hrecords) hcwd h.output_apart
  obtain ⟨w₂, errors, herr, hd₂, hsame₂, -, hholds', hkept⟩ :=
    World.openStream_provided h.errors hd₁ hcwd₁ h.errors_apart
  have hsame := (hbefore.toSameFiles.trans hsame₁).trans hsame₂
  have hapart : World.Apart (sh.world.ownFiles out err) ⟨output, errors⟩ out err := by
    refine ⟨fun handle ho => ?_, h.distinct, h.output_apart, h.errors_apart⟩
    obtain rfl : output = .handle handle := ho
    cases hholds with
    | handle hf => exact (hkept handle _ hf.file).2
  have hstocked : World.Stocked d₂ (sh.world.ownFiles out err) ⟨output, errors⟩ out err [] [] w₂ := by
    refine ⟨?_, fun hnone => ?_, fun hnone => ?_, hd₂.mono fun n hn => ?_, ?_, hholds'⟩
    · rw [hsame.records]
      exact hrecords
    · rw [hsame.output, World.ownFiles, if_pos hnone]
      exact fun n hn => List.mem_append_left _ (List.mem_append_right _ hn)
    · rw [hsame.errors, World.ownFiles, if_pos hnone]
      exact fun n hn => List.mem_append_right _ hn
    · exact List.mem_append_left _ (List.mem_append_left _ hn)
    · cases hholds with
      | own bs => exact .own _
      | handle hf =>
        rename_i handle n
        refine .handle ⟨(hkept handle _ hf.file).1, ?_⟩
        rw [hd₂.content n (h.output_apart n rfl), h.errors.content, if_neg (h.distinct n rfl),
          h.output.content, if_pos rfl]
  refine ⟨_, ⟨output, errors⟩, ?_, hapart, hstocked.aside hapart
    (World.aside_ignoreAll (l.redirects.above standardError) w₂) hstocked.records_own⟩
  rw [Shell.targets, World.openTargets_eq _ _ hl, hout]
  dsimp only
  rw [herr]

/-- What a built-in prints, if all of it can be printed. -/
def builtinOutput (b : Builtin) (args : List Text) (sh : Shell) : Text :=
  match b with
  | .exit | .cd => []
  | .echo => Text.join " " args ++ "\n"
  | .type => args.flatMap sh.typeLine
  | .pwd => sh.session.currentDir ++ "\n"

variable {d : Disk} {own : List Nat} {o : Outlets} {es : Bytes}

theorem stocked_cd {bs : Bytes} (ha : World.Apart own o out err)
    (hs : World.Stocked d own o out err bs es sh.world) (args : List Text) :
    World.Stocked d own o out err bs es (sh.cd args).1.world :=
  cd_stages (World.Stocked d own o out err bs es) (fun _ _ _ h => h.note ha _)
    (fun _ _ h => { h with output := h.output.of_agrees (.refl [] _) nofun fun _ _ => rfl
                           errors := h.errors.of_agrees (.refl [] _) nofun fun _ _ => rfl })
    args hs

theorem stocked_runBuiltin (ha : World.Apart own o out err)
    (hs : World.Stocked d own o out err [] es sh.world) (b : Builtin) (args : List Text) :
    World.Stocked d own o out err (Utf8.encode (sh.builtinOutput b args)) es
      (sh.runBuiltin b args o.output).1.world := by
  have said : ∀ (b : Builtin) (texts : List Text),
      World.Stocked d own o out err (Utf8.encode texts.flatten) es
        (sh.say b o.output texts).1.world := by
    intro b texts
    rw [Utf8.encode_flatten]
    exact (hs.print ha texts).1
  cases b with
  | exit => exact hs
  | echo =>
    have hflat : [Text.join " " args, "\n"].flatten = sh.builtinOutput .echo args := by
      simp [builtinOutput]
    rw [← hflat]
    exact said .echo _
  | pwd =>
    have hflat : [sh.session.currentDir, "\n"].flatten = sh.builtinOutput .pwd args := by
      simp [builtinOutput]
    rw [← hflat]
    exact said .pwd _
  | type =>
    rw [runBuiltin, typeNames]
    split
    · rename_i he
      rw [List.isEmpty_iff.1 he]
      exact hs
    · rw [typeEach_eq, builtinOutput, ← flatten_typePieces]
      exact said .type _
  | cd => exact stocked_cd ha hs args

/-- What is left to do changes nothing in the files of the command. -/
theorem stocked_windUp {bs : Bytes} (ha : World.Apart own o out err)
    (hs : World.Stocked d own o out err bs es sh.world) (c : Command) :
    ∃ w, World.Stocked d own o out err bs es w ∧ (sh.windUp c o).world = o.close w := by
  have hflushed := hs.flush ha
  unfold windUp
  cases (sh.world.flushOutlet o.output).2 with
  | none => exact ⟨_, hflushed, rfl⟩
  | some cause => exact ⟨_, hflushed.note ha _, rfl⟩

/-- The message about what has become of a built-in, or nothing if all went well. -/
def complaint : Outcome → Text
  | .ok _ => []
  | .error f => f.message ++ "\n"

theorem stocked_executeBuiltin (ha : World.Apart own o out err)
    (hs : World.Stocked d own o out err [] [] sh.world) (b : Builtin) (c : Command) :
    ∃ w, World.Stocked d own o out err (Utf8.encode (sh.builtinOutput b c.arguments))
        (Utf8.encode (complaint (sh.runBuiltin b c.arguments o.output).2)) w ∧
      (sh.executeBuiltin b c o).1.world = o.close w := by
  have hrun := stocked_runBuiltin ha hs b c.arguments
  rw [executeBuiltin_eq]
  generalize sh.runBuiltin b c.arguments o.output = r at hrun
  obtain ⟨sh', f | code⟩ := r
  · have hreport : World.Stocked d own o out err (Utf8.encode (sh.builtinOutput b c.arguments))
        (Utf8.encode (f.message ++ "\n")) (sh'.report o.errors f).world := hrun.report ha f.message
    exact stocked_windUp ha hreport c
  · exact stocked_windUp ha hrun c

/-- The line has no command, or a built-in is its command. -/
def InProcess (l : CommandLine) : Prop := ∀ c, l.command = some c → ∃ b : Builtin, c.name = b.name

/-- What the command of a line prints, if it is a built-in. -/
def lineOutput (l : CommandLine) (sh : Shell) : Text :=
  match l.command.bind fun c => (Builtin.ofName? c.name).map (·, c.arguments) with
  | some (b, args) => sh.builtinOutput b args
  | none => []

/-- What the user is told of a line: the message about its failure, or nothing. -/
def Complaint (run : Runner) (line : Text) (sh : Shell) (m : Text) : Prop :=
  (∃ f out, Fails run line sh f out ∧ m = f.message ++ "\n") ∨
    (∀ f out, ¬ Fails run line sh f out) ∧ m = []

variable {line : Text} {run : Runner}

theorem complaint_of_outcome {c : Command} {b : Builtin} {w : World} (hr : Runs line sh c o w)
    (hb : c.name = b.name) :
    Complaint run line sh
      (complaint (({ sh with world := w } : Shell).runBuiltin b c.arguments o.output).2) := by
  have hm : ({ sh with world := w } : Shell).meaning c.name = .builtin b := by
    rw [hb, meaning_builtin]
  have hfails : ∀ f out, Fails run line sh f out ↔
      (({ sh with world := w } : Shell).runBuiltin b c.arguments o.output).2 = .error f ∧
        out = o.errors :=
    fun f out => (fails_command_iff hr).trans (commandFails_builtin hm)
  cases hout : (({ sh with world := w } : Shell).runBuiltin b c.arguments o.output).2 with
  | ok code =>
    refine Or.inr ⟨fun f out h => ?_, rfl⟩
    exact nomatch hout.symm.trans ((hfails f out).1 h).1
  | error f => exact Or.inl ⟨f, o.errors, (hfails _ _).2 ⟨hout, rfl⟩, rfl⟩

/-- In the end the files of the command hold what it wrote to them, and they are closed. -/
theorem execute_stocked (run : Runner) (hl : CommandLine.parse? line = some l) (hin : InProcess l)
    (hs : Supplied l sh out err d₁ d₂) :
    ∃ w o wf m, sh.targets l = (w, .ok o) ∧
      World.Stocked d₂ (sh.world.ownFiles out err) o out err
        (Utf8.encode (lineOutput l { sh with world := w })) (Utf8.encode m) wf ∧
      Complaint run line sh m ∧ (sh.execute run line).1.world = o.close wf := by
  obtain ⟨w, o, ht, hapart, hst⟩ := hs.targets (CommandLine.ascending_of_parse? hl)
  rw [execute_eq hl, ht]
  cases hc : l.command with
  | none =>
    refine ⟨w, o, w, [], rfl, ?_, Or.inr ⟨fun f out h => ?_, rfl⟩, rfl⟩
    · rw [lineOutput, hc]
      exact hst
    · rw [fails_iff hl, ht] at h
      obtain ⟨c, hc', -⟩ := h
      exact nomatch hc.symm.trans hc'
  | some c =>
    obtain ⟨b, hb⟩ := hin c hc
    have hm : ({ sh with world := w } : Shell).meaning c.name = .builtin b := by
      rw [hb, meaning_builtin]
    have hout : lineOutput l { sh with world := w } =
        ({ sh with world := w } : Shell).builtinOutput b c.arguments := by
      rw [lineOutput, hc, Option.bind_some, hb, Builtin.ofName?_name]
      rfl
    have hopened : World.Stocked d₂ (sh.world.ownFiles out err) o out err [] []
        ({ sh with world := w } : Shell).world := hst
    obtain ⟨wf, hwf, he⟩ := stocked_executeBuiltin hapart hopened b c
    refine ⟨w, o, wf, _, rfl, ?_, complaint_of_outcome ⟨l, hl, hc, ht⟩ hb, ?_⟩
    · rw [hout]
      exact hwf
    · dsimp only
      rw [executeCommand, hm]
      exact he

/-- What the parts of a line keep, once its targets are open, the whole of it keeps. -/
theorem inProcess_stages (P : World → Prop) {w : World} (hl : CommandLine.parse? line = some l)
    (hin : InProcess l) (ht : sh.targets l = (w, .ok o))
    (hp : ∀ ts w, P w → P (World.print o.output ts w).1) (hn : ∀ r w, P w → P (w.note r))
    (hm : ∀ place w, P w → P { w with cwd := place })
    (hr : ∀ message w, P w → P (w.report o.errors message))
    (hf : ∀ w, P w → P (w.flushOutlet o.output).1) (hc : ∀ w, P w → P (o.close w)) (h : P w) :
    P (sh.execute run line).1.world := by
  rw [execute_eq hl, ht]
  cases hcommand : l.command with
  | none => exact hc w h
  | some c =>
    obtain ⟨b, hb⟩ := hin c hcommand
    have hmeaning : ({ sh with world := w } : Shell).meaning c.name = .builtin b := by
      rw [hb, meaning_builtin]
    dsimp only
    rw [executeCommand, hmeaning]
    exact executeBuiltin_stages (P ·.world) (P ·.world) b c o (fun f sh => hr f.message sh.world)
      (fun sh => hf sh.world) (fun r sh => hn r sh.world) (fun sh => hc sh.world)
      (runBuiltin_stages P hp (fun _ _ => hn _) hm b c.arguments h)

/-- With a file for its output a line has nothing to do with the output of the shell. -/
theorem output_of_inProcess {w : World} {h : Handle} (hl : CommandLine.parse? line = some l)
    (hin : InProcess l) (ht : sh.targets l = (w, .ok o)) (ho : o.output = .handle h) :
    (sh.execute run line).1.world.surroundings.output = sh.world.surroundings.output ∧
      (sh.execute run line).1.world.pending = sh.world.pending := by
  have hsilent : sh.world.Silent w := by
    have htargets := (World.silent_note sh.world (.parsed l)).trans
      (World.silent_openTargets l.opener sh.session.currentDir l.redirects {} _)
    rw [← targets, ht] at htargets
    exact htargets
  have hsame : ∀ {w' w'' : World}, w'.surroundings.output = sh.world.surroundings.output ∧
      w'.pending = sh.world.pending → w'.Silent w'' →
      w''.surroundings.output = sh.world.surroundings.output ∧ w''.pending = sh.world.pending :=
    fun hw hs => ⟨hs.stream.trans hw.1, hs.pending.trans hw.2⟩
  refine inProcess_stages (fun w => w.surroundings.output = sh.world.surroundings.output ∧
    w.pending = sh.world.pending) hl hin ht (fun ts w hw => ?_)
    (fun r w hw => hsame hw (World.silent_note w r)) (fun _ _ hw => hw)
    (fun message w hw => hsame hw (World.silent_report w _ message)) (fun w hw => ?_)
    (fun w hw => hsame hw (World.silent_close w o)) ⟨hsilent.stream, hsilent.pending⟩
  · rw [ho]
    exact hsame hw (World.silent_print_handle w h ts)
  · rw [ho]
    exact hw

/-- With a file for its errors a line has nothing to do with the errors of the shell. -/
theorem errors_of_inProcess {w : World} {h : Handle} (hl : CommandLine.parse? line = some l)
    (hin : InProcess l) (ht : sh.targets l = (w, .ok o)) (ho : o.errors = .handle h)
    (hd : sh.world.Discreet) :
    (sh.execute run line).1.world.surroundings.errors = sh.world.surroundings.errors := by
  have hopened : sh.world.Hushed w := by
    have htargets := hushed_targets l sh
    rwa [ht] at htargets
  have hsame : ∀ {w' w'' : World}, w'.Discreet ∧
      w'.surroundings.errors = sh.world.surroundings.errors → w'.Hushed w'' →
      w''.Discreet ∧ w''.surroundings.errors = sh.world.surroundings.errors := by
    intro w' w'' hw hq
    obtain ⟨hd', he⟩ := hq.quiet.errors hw.1
    exact ⟨hd', he.trans hw.2⟩
  refine (inProcess_stages (fun w => w.Discreet ∧
    w.surroundings.errors = sh.world.surroundings.errors) hl hin ht
    (fun ts w hw => hsame hw (World.hushed_print w _ ts)) (fun r w hw => ?_) (fun _ _ hw => hw)
    (fun message w hw => ?_) (fun w hw => hsame hw (World.hushed_flushOutlet w _))
    (fun w hw => hsame hw (World.hushed_close w o)) (hsame ⟨hd, rfl⟩ hopened)).2
  · obtain ⟨hd', he⟩ := World.note_discreet hw.1 r
    exact ⟨hd', he.trans hw.2⟩
  · rw [ho]
    obtain ⟨hd', he⟩ := World.report_handle_errors hw.1 h message
    exact ⟨hd', he.trans hw.2⟩

/-- The file that a free target has become. -/
inductive Created (l : CommandLine) (sh : Shell) (out err : Option Nat) (d₁ : Disk) :
    Location → Nat → Prop
  | output {t : Text} {k : Location} {n : Nat} (ht : l.redirects.target? standardOutput = some t)
      (hn : out = some n) (hk : sh.world.disk.locate sh.world.cwd .create
        (Path.join sh.session.currentDir t) = .ok (.vacant k)) : Created l sh out err d₁ k n
  | errors {t : Text} {k : Location} {n : Nat} (ht : l.redirects.target? standardError = some t)
      (hn : err = some n) (hk : d₁.locate sh.world.cwd .create
        (Path.join sh.session.currentDir t) = .ok (.vacant k)) : Created l sh out err d₁ k n

/-- All that is other on a disk after a line: files where its two targets were free, and what is in
the files of those two and in those that the shell writes to by itself. -/
structure Footprint (l : CommandLine) (sh : Shell) (out err : Option Nat) (d₁ d' : Disk) : Prop where
  entries : ∀ k, d'.lookup k = sh.world.disk.lookup k ∨
    sh.world.disk.lookup k = none ∧
      ∃ n mode, Created l sh out err d₁ k n ∧ d'.lookup k = some ⟨n, mode, .file⟩
  contents : ∀ n, out ≠ some n → err ≠ some n → n ∉ sh.world.ownFiles out err →
    d'.content n = sh.world.disk.content n

/-- Where a path led, there is the file of this number now, with these bytes in it and no others. -/
def Delivered (d d' : Disk) (user : Place) (path : Text) (n : Nat) (bs : Bytes) : Prop :=
  ∃ k mode, d.LeadsTo user path k ∧ d'.lookup k = some ⟨n, mode, .file⟩ ∧ d'.content n = bs

theorem Supplied.footprint {d' : Disk} (hs : Supplied l sh out err d₁ d₂)
    (hd : d₂.AgreesBut (sh.world.ownFiles out err ++ out.toList ++ err.toList) d') :
    Footprint l sh out err d₁ d' := by
  refine ⟨fun k => ?_, fun n hout herr hown => ?_⟩
  · rw [hd.lookup]
    rcases hs.errors.lookup k with hk₂ | ⟨hfree, t, n, mode, ht, hn, hl, hk₂⟩
    · rcases hs.output.lookup k with hk₁ | ⟨hfree, t, n, mode, ht, hn, hl, hk₁⟩
      · exact Or.inl (hk₂.trans hk₁)
      · exact Or.inr ⟨hfree, n, mode, .output ht hn hl, hk₂.trans hk₁⟩
    · refine Or.inr ⟨?_, n, mode, .errors ht hn hl, hk₂⟩
      cases hk : sh.world.disk.lookup k with
      | none => rfl
      | some e => exact nomatch hfree.symm.trans (hs.output.keeps hk)
  · have hn : n ∉ sh.world.ownFiles out err ++ out.toList ++ err.toList := by
      simp only [List.mem_append, Option.mem_toList, not_or]
      exact ⟨⟨hown, hout⟩, herr⟩
    rw [hd.content n hn, hs.errors.content, if_neg herr, hs.output.content, if_neg hout]

theorem Supplied.footprint_of_nothing (hs : Supplied ⟨none, []⟩ sh out err d₁ d₂) :
    out = none ∧ err = none ∧ Footprint ⟨none, []⟩ sh out err d₁ sh.world.disk := by
  obtain ⟨hout, hd₁⟩ := hs.output.of_none
  obtain ⟨herr, hd₂⟩ := hs.errors.of_none
  refine ⟨hout, herr, hs.footprint ?_⟩
  rw [hd₂, hd₁]
  exact .refl _ _

/-- A line without a command or with a built-in leaves nothing on the disk but the targets that were
named last for its output and its errors: no other target in it is touched, and no file but those
two and those of the shell's own output, errors and records. The one has what the built-in printed
in it and the other its message, if there was one, and nothing else. The shell's own output gets
nothing if there is a target for it, and neither do its errors, but for records that go there. -/
theorem execute_inProcess (run : Runner) (line : Text) (sh : Shell) (l : CommandLine)
    (out err : Option Nat) (d₁ d₂ : Disk) (hl : CommandLine.ofLine line = l) (hin : InProcess l)
    (hs : Supplied l sh out err d₁ d₂) :
    (∀ fd, l.redirects.target? fd = lastTarget? fd (items (tokens line))) ∧
    Footprint l sh out err d₁ (sh.execute run line).1.world.disk ∧
    (∀ n, out = some n →
      (∃ t, l.redirects.target? standardOutput = some t ∧
        Delivered sh.world.disk (sh.execute run line).1.world.disk sh.world.cwd
          (Path.join sh.session.currentDir t) n
          (Utf8.encode (lineOutput l { sh with world := (sh.targets l).1 }))) ∧
      (sh.execute run line).1.world.surroundings.output = sh.world.surroundings.output ∧
      (sh.execute run line).1.world.pending = sh.world.pending) ∧
    ∀ n, err = some n →
      (∃ t m, l.redirects.target? standardError = some t ∧ Complaint run line sh m ∧
        Delivered d₁ (sh.execute run line).1.world.disk sh.world.cwd
          (Path.join sh.session.currentDir t) n (Utf8.encode m)) ∧
      (sh.world.Discreet →
        (sh.execute run line).1.world.surroundings.errors = sh.world.surroundings.errors) := by
  have hlast : ∀ fd, l.redirects.target? fd = lastTarget? fd (items (tokens line)) := by
    rw [← hl, CommandLine.redirects_ofLine]
    exact (redirects_spec _).2
  cases hp : CommandLine.parse? line with
  | none =>
    obtain rfl : l = ⟨none, []⟩ := by rw [← hl, CommandLine.ofLine, hp, Option.getD_none]
    obtain ⟨hout, herr, hfoot⟩ := hs.footprint_of_nothing
    rw [execute_blank hp]
    refine ⟨hlast, hfoot, fun n hn => ?_, fun n hn => ?_⟩
    · cases hout.symm.trans hn
    · cases herr.symm.trans hn
  | some l' =>
    obtain rfl : l' = l := by rw [← hl, CommandLine.ofLine, hp, Option.getD_some]
    obtain ⟨w, o, wf, m, ht, hwf, hm, he⟩ := execute_stocked run hp hin hs
    have hdisk : (sh.execute run line).1.world.disk = wf.disk := by
      rw [he, Outlets.close, World.closeOutlet_disk, World.closeOutlet_disk]
    refine ⟨hlast, ?_, ?_, ?_⟩
    · rw [hdisk]
      exact hs.footprint hwf.disk
    · rintro n rfl
      obtain ⟨⟨h, ho⟩, hcontent⟩ := hwf.output.content
      obtain ⟨t, k, mode, htarget, hleads, hk⟩ := hs.output.place
      refine ⟨⟨t, htarget, k, mode, hleads, ?_, ?_⟩, output_of_inProcess hp hin ht ho⟩
      · rw [hdisk, hwf.disk.lookup, hs.errors.keeps hk]
      · rw [hdisk, hcontent, ht]
    · rintro n rfl
      obtain ⟨⟨h, ho⟩, hcontent⟩ := hwf.errors.content
      obtain ⟨t, k, mode, htarget, hleads, hk⟩ := hs.errors.place
      refine ⟨⟨t, m, htarget, hm, k, mode, hleads, ?_, ?_⟩, errors_of_inProcess hp hin ht ho⟩
      · rw [hdisk, hwf.disk.lookup, hk]
      · rw [hdisk, hcontent]

def thriceLine : Text := "echo x 'y  z' > old > a 3> c 2> b"

def thriceParse : CommandLine :=
  ⟨some ⟨"echo", ["x", "y  z"]⟩, [(1, "a"), (2, "b"), (3, "c")]⟩

/-- The disk with the target of the output on it. -/
def onceDisk : Disk :=
  (sampleShell.world.disk.put ["a"] 0o644 .file).refill sampleShell.world.disk.next []

/-- The disk with both targets on it. -/
def twiceDisk : Disk := (onceDisk.put ["b"] 0o644 .file).refill onceDisk.next []

theorem supplied_sample :
    Supplied thriceParse sampleShell (some 11) (some 12) onceDisk twiceDisk := by
  have ho : sampleShell.world.disk.openFile sampleShell.world.cwd .truncate
      (Path.join sampleShell.session.currentDir "a") =
        .ok (onceDisk, ⟨.content 11, 0, false, .writing⟩) := by decide +kernel
  have he : onceDisk.openFile sampleShell.world.cwd .truncate
      (Path.join sampleShell.session.currentDir "b") =
        .ok (twiceDisk, ⟨.content 12, 0, false, .writing⟩) := by decide +kernel
  have hown : sampleShell.world.ownFiles (some 11) (some 12) = [] := by decide +kernel
  refine ⟨.opened ho, .opened he, ?_, ?_, ?_⟩
  · rintro n hn hn'
    exact nomatch hn.trans hn'.symm
  · rw [hown]
    exact fun _ _ => List.not_mem_nil
  · rw [hown]
    exact fun _ _ => List.not_mem_nil

theorem execute_inProcess_echo :
    CommandLine.ofLine thriceLine = thriceParse ∧ InProcess thriceParse ∧
      Supplied thriceParse sampleShell (some 11) (some 12) onceDisk twiceDisk ∧
      Footprint thriceParse sampleShell (some 11) (some 12) onceDisk
        (sampleShell.execute idleRunner thriceLine).1.world.disk ∧
      (sampleShell.execute idleRunner thriceLine).1.world.disk.content 11 =
        Utf8.encode "x y  z\n".toList ∧
      (sampleShell.execute idleRunner thriceLine).1.world.surroundings.output =
        sampleShell.world.surroundings.output := by
  have hl : CommandLine.ofLine thriceLine = thriceParse := by decide +kernel
  have hin : InProcess thriceParse := by
    intro c hc
    cases hc
    exact ⟨.echo, by decide⟩
  obtain ⟨-, hfoot, hout, -⟩ := execute_inProcess idleRunner thriceLine sampleShell thriceParse
    (some 11) (some 12) onceDisk twiceDisk hl hin supplied_sample
  obtain ⟨⟨t, -, k, mode, -, -, hcontent⟩, houtput, -⟩ := hout 11 rfl
  refine ⟨hl, hin, supplied_sample, hfoot, ?_, houtput⟩
  rw [hcontent]
  decide +kernel

end Shell
end CommandShell
