import LineMacro.Proofs.Cli.Settings
import LineMacro.Proofs.Document.SameNames
/-!
# Command line — all or nothing, with one gap

A command that is given names only runs its input as the library does, under what
its options ask for (`command_of_run`). If the run gives a text, that text is
written, all of it, to the place that the options name, and nothing anywhere else.
In every other case nothing is written at all: neither if the run fails, nor if
there is no input, nor if there is no job. The gap is a text that is refused when
it is written: the file for it has been opened by then, and is left empty
(`writesNothing_or_refused`). And a path that no system can look up is no file that
cannot be read: the command does not end with the status for one.
-/

namespace LineMacro

namespace Cli

namespace Expand

/-- The files after a command: what it wrote stands where the path leads. -/
def Transcript.leaves (t : Transcript) (files : FileTree) : FileTree :=
  match t.written with
  | none => files
  | some (p, text) =>
    match files.destination p with
    | .ok (some place) =>
      { files with files := Keyed.put Prod.fst (place, encode text) files.files }
    | _ => files

/-- Nothing has come out, and no file is new or changed. -/
structure Transcript.WritesNothing (t : Transcript) (files : FileTree) : Prop where
  out : t.out = []
  written : t.written = none
  leaves : t.leaves files = files

/-- The command has ended with a status that tells of a failure, without a trace. -/
structure Transcript.Fails (t : Transcript) (files : FileTree) (status : Nat) : Prop extends
    t.WritesNothing files where
  ending : t.ending = .exit status

/-- The text is all that the file at the path holds, and every other file is as it
was. -/
structure Transcript.Puts (t : Transcript) (files : FileTree) (p : Path) (text : Text) :
    Prop where
  out : t.out = []
  written : t.written = some (p, text)
  directories : (t.leaves files).directories = files.directories
  file?_eq : ∀ place, files.destination p = .ok (some place) →
    (t.leaves files).file? place = some (encode text)
  file?_of_ne : ∀ place, files.destination p ≠ .ok (some place) →
    (t.leaves files).file? place = files.file? place

/-- The command has ended well and has written the text where it should go, and
nothing else. -/
inductive Transcript.Delivers (t : Transcript) (files : FileTree) (text : Text) : Target → Prop
  /-- On standard output, with no file new or changed. -/
  | standard : t.ending = .exit 0 → t.out = text → t.written = none → t.leaves files = files →
      Delivers t files text .standard
  /-- To a file, and to this one only; it holds the text and no more. -/
  | file {p : Path} : t.ending = .exit 0 → t.Puts files p text → Delivers t files text (.file p)

/-- The command has been brought down by a text that was refused when it was
written. -/
inductive Transcript.Refused (t : Transcript) (files : FileTree) : Target → Prop
  /-- From standard output nothing can be told. -/
  | standard : t.ending = .refused → t.WritesNothing files → Refused t files .standard
  /-- A file has been opened by then, and so it is empty. -/
  | file {p : Path} : t.ending = .refused → t.Puts files p [] → Refused t files (.file p)

/-- What reading the input that the settings name gives. -/
inductive Settings.Opens (s : Settings) (stdin : ByteArray) (files : FileTree) :
    Except Trouble ByteArray → Prop
  /-- Standard input is read where no file is named, or a lone dash. -/
  | standard : (∀ p, s.input = some p → p.text = ['-']) → Opens s stdin files (.ok stdin)
  /-- Any other path that can be looked up is that of a file. -/
  | file {p : Path} : s.input = some p → p.text ≠ ['-'] → p.isSound = true →
      Opens s stdin files (files.read p)

/-- What the result should go to can be opened. -/
inductive Target.CanBeOpened (files : FileTree) : Target → Prop
  | standard : CanBeOpened files .standard
  | file {p : Path} : p.isSound = true → files.obstacle p = none → CanBeOpened files (.file p)

variable {j : Job} {s : Settings} {t : Transcript} {p : Path}
variable {obstacle : Path → Option Trouble} {refuses : Text → Bool}
variable {stdin : ByteArray} {files : FileTree} {source text : Text} {words : List Text}

/-! ## What is left behind -/

theorem Transcript.leaves_of_none (h : t.written = none) : t.leaves files = files := by
  rw [leaves, h]

theorem Transcript.WritesNothing.of_none (hout : t.out = []) (hwritten : t.written = none) :
    t.WritesNothing files :=
  ⟨hout, hwritten, leaves_of_none hwritten⟩

/-- What is written stands where the path leads. -/
theorem Transcript.leaves_file? {place : Steps} (hwritten : t.written = some (p, text))
    (hplace : files.destination p = .ok (some place)) :
    (t.leaves files).file? place = some (encode text) := by
  rw [leaves, hwritten]
  dsimp only
  rw [hplace]
  dsimp only
  rw [FileTree.file?, Keyed.find?_put, if_pos rfl]
  rfl

/-- Every other file keeps its content. -/
theorem Transcript.leaves_file?_of_ne {place : Steps}
    (hwritten : t.written = some (p, text)) (hplace : files.destination p ≠ .ok (some place)) :
    (t.leaves files).file? place = files.file? place := by
  rw [leaves, hwritten]
  dsimp only
  split
  · rename_i there hthere
    have hne : there ≠ place := fun h => hplace (h ▸ hthere)
    rw [FileTree.file?, Keyed.find?_put, if_neg hne, FileTree.file?]
  · rfl

theorem Transcript.leaves_directories (t : Transcript) (files : FileTree) :
    (t.leaves files).directories = files.directories := by
  rw [leaves]
  split
  · rfl
  · split <;> rfl

theorem Transcript.Puts.of_written (hout : t.out = []) (hwritten : t.written = some (p, text)) :
    t.Puts files p text where
  out := hout
  written := hwritten
  directories := leaves_directories t files
  file?_eq := fun _ => leaves_file? hwritten
  file?_of_ne := fun _ => leaves_file?_of_ne hwritten

/-! ## The work on a source -/

namespace Job

/-- What the text should go to can be opened: all depends on whether it is refused. -/
theorem deliver_of_canBeOpened (hopen : j.target.CanBeOpened files) (err text : Text) :
    let t := j.deliver files.obstacle refuses err text
    (refuses text = false → t.Delivers files text j.target) ∧
      (refuses text = true → t.Refused files j.target) := by
  dsimp only
  cases htarget : j.target with
  | standard =>
    rw [deliver, htarget]
    refine ⟨fun htaken => ?_, fun hrefused => ?_⟩
    · rw [htaken]
      exact .standard rfl rfl rfl rfl
    · rw [hrefused]
      exact .standard rfl (.of_none rfl rfl)
  | missing =>
    rw [htarget] at hopen
    cases hopen
  | file p =>
    rw [htarget] at hopen
    cases hopen with
    | file hsound hobstacle =>
      rw [deliver, htarget]
      dsimp only
      rw [if_neg (by simp [hsound]), hobstacle]
      refine ⟨fun htaken => ?_, fun hrefused => ?_⟩
      · rw [htaken]
        exact .file rfl (.of_written rfl rfl)
      · rw [hrefused]
        exact .file rfl (.of_written rfl rfl)

/-- A text is written in full, or it leaves no trace, or it has emptied a file. -/
theorem deliver_cases (j : Job) (obstacle : Path → Option Trouble) (refuses : Text → Bool)
    (err text : Text) :
    let t := j.deliver obstacle refuses err text
    t.ending = .exit 0 ∨ t.WritesNothing files ∨
      ∃ p, j.target = .file p ∧ refuses text = true ∧ t.Refused files (.file p) := by
  dsimp only
  rw [deliver]
  cases j.target with
  | standard =>
    cases refuses text with
    | true => exact Or.inr (Or.inl (.of_none rfl rfl))
    | false => exact Or.inl rfl
  | missing => exact Or.inr (Or.inl (.of_none rfl rfl))
  | file p =>
    dsimp only
    -- the path may be none that can be looked up, or something stands in the way
    split
    · exact Or.inr (Or.inl (.of_none rfl rfl))
    · cases obstacle p with
      | some trouble => exact Or.inr (Or.inl (.of_none rfl rfl))
      | none =>
        cases refuses text with
        | true => exact Or.inr (Or.inr ⟨p, rfl, rfl, .file rfl (.of_written rfl rfl)⟩)
        | false => exact Or.inl rfl

/-- A run that fails writes no result. -/
theorem finish_of_error {e : Failure}
    (h : (run source j.predeclared j.definitions).result = .error e) :
    (j.finish obstacle refuses source).Fails files 1 := by
  rw [finish, h]
  exact ⟨.of_none rfl rfl, rfl⟩

/-- **The result is written where it should go**, unless it is refused. -/
theorem finish_of_ok (h : (run source j.predeclared j.definitions).result = .ok text)
    (hopen : j.target.CanBeOpened files) :
    let t := j.finish files.obstacle refuses source
    (refuses text = false → t.Delivers files text j.target) ∧
      (refuses text = true → t.Refused files j.target) := by
  dsimp only
  rw [finish, h]
  exact deliver_of_canBeOpened hopen _ text

theorem perform_of_sound {input : Except Trouble ByteArray}
    (hsound : j.input.all Path.isSound = true) :
    j.perform obstacle refuses input =
      match input with
      | .error trouble => { ending := .exit 1, err := Report.unreadable j.display trouble.reason }
      | .ok bytes =>
        match decode? bytes with
        | none => { ending := .undecodable }
        | some source => j.finish obstacle refuses source := by
  have hnot : ¬ (!j.input.all Path.isSound) = true := by simp [hsound]
  exact (perform.eq_def j obstacle refuses input).trans (if_neg hnot)

/-- A path that cannot be looked up brings the command down. -/
theorem perform_of_unsound (hunsound : j.input.all Path.isSound = false)
    (input : Except Trouble ByteArray) :
    j.perform obstacle refuses input = { ending := .unsoundPath } := by
  rw [perform.eq_def, if_pos (by simp [hunsound])]

/-- Only a command that ends well has written something, or one whose result was
refused. -/
theorem perform_cases (j : Job) (obstacle : Path → Option Trouble) (refuses : Text → Bool)
    (input : Except Trouble ByteArray) :
    let t := j.perform obstacle refuses input
    t.ending = .exit 0 ∨ t.WritesNothing files ∨
      ∃ p text, j.target = .file p ∧ refuses text = true ∧ t.Refused files (.file p) := by
  dsimp only
  cases hsound : j.input.all Path.isSound with
  | false =>
    rw [perform_of_unsound hsound]
    exact Or.inr (Or.inl (.of_none rfl rfl))
  | true =>
    rw [perform_of_sound hsound]
    cases input with
    | error trouble => exact Or.inr (Or.inl (.of_none rfl rfl))
    | ok bytes =>
      dsimp only
      cases decode? bytes with
      | none => exact Or.inr (Or.inl (.of_none rfl rfl))
      | some source =>
        dsimp only
        rw [finish]
        cases (run source j.predeclared j.definitions).result with
        | error e => exact Or.inr (Or.inl (.of_none rfl rfl))
        | ok text =>
          rcases j.deliver_cases obstacle refuses _ text with hexit | hnothing | ⟨p, hp⟩
          · exact Or.inl hexit
          · exact Or.inr (Or.inl hnothing)
          · exact Or.inr (Or.inr ⟨p, text, hp⟩)

end Job

/-- A job reads the input of its settings. -/
theorem Settings.Opens.fetch_jobOf {r : Except Trouble ByteArray} (h : s.Opens stdin files r)
    (raw : List Text) :
    (s.jobOf raw).input.all Path.isSound = true ∧ (s.jobOf raw).fetch stdin files = r := by
  cases h with
  | standard hdash =>
    have hinput : (s.jobOf raw).input = none :=
      Option.filter_eq_none_iff.2 fun p hp => by simpa using hdash p hp
    rw [Job.fetch, hinput]
    exact ⟨rfl, rfl⟩
  | file hp hdash hsound =>
    have hinput : (s.jobOf raw).input = some _ :=
      Option.filter_eq_some_iff.2 ⟨hp, by simpa using hdash⟩
    rw [Job.fetch, hinput]
    exact ⟨hsound, rfl⟩

/-! ## The whole command -/

/-- **A name that is none is found before any work.** -/
theorem command_of_not_named (haccepted : settingsOf words = .ok s) (h : none ∉ s.names)
    (hnot : ¬ s.Named) (stdin : ByteArray) (files : FileTree) :
    (command words stdin files).Fails files 2 ∧
      ∀ stdin' files', command words stdin' files' = command words stdin files := by
  obtain ⟨n, hjob⟩ := Settings.exists_job_eq_invalidName h hnot
  have hcommand : ∀ stdin files,
      command words stdin files = .ofNoJob (.stop (.misuse (.invalidName n))) := by
    intro stdin files
    rw [command, plan_eq_job haccepted, hjob]
  rw [hcommand]
  exact ⟨⟨.of_none rfl rfl, rfl⟩, fun stdin' files' => hcommand stdin' files'⟩

theorem command_of_named (haccepted : settingsOf words = .ok s) (h : s.Named)
    (stdin : ByteArray) (files : FileTree) :
    ∃ raw : List Text, s.definitions = raw.map some ∧
      command words stdin files =
        (s.jobOf raw).perform files.obstacle files.refuses ((s.jobOf raw).fetch stdin files) := by
  obtain ⟨raw, hraw, hjob⟩ := Settings.exists_job_eq_ok h
  exact ⟨raw, hraw, by rw [command, plan_eq_job haccepted, hjob]⟩

/-- Without an input there is no result. -/
theorem command_of_unopened {trouble : Trouble} (haccepted : settingsOf words = .ok s)
    (h : s.Named) (hopens : s.Opens stdin files (.error trouble)) :
    (command words stdin files).Fails files 1 := by
  obtain ⟨raw, -, hcommand⟩ := command_of_named haccepted h stdin files
  obtain ⟨hsound, hfetch⟩ := hopens.fetch_jobOf raw
  rw [hcommand, hfetch, Job.perform_of_sound hsound]
  exact ⟨.of_none rfl rfl, rfl⟩

/-- A command that has a source to work on does what its job does with it. The job
runs the source as the library does under what is asked for. -/
theorem exists_command_eq_finish {bytes : ByteArray} {predeclared : List Text}
    {definitions : List (Text × Text)} (haccepted : settingsOf words = .ok s) (h : s.Named)
    (hasks : s.Asks predeclared definitions) (hopens : s.Opens stdin files (.ok bytes))
    (hdecode : decode? bytes = some source) :
    ∃ j : Job, j.target = s.target ∧
      command words stdin files = j.finish files.obstacle files.refuses source ∧
      (run source j.predeclared j.definitions).result =
        (run source predeclared (Keyed.ofList Prod.fst definitions)).result := by
  obtain ⟨raw, hraw, hcommand⟩ := command_of_named haccepted h stdin files
  obtain ⟨hsound, hfetch⟩ := hopens.fetch_jobOf raw
  rw [hfetch, Job.perform_of_sound hsound] at hcommand
  dsimp only at hcommand
  rw [hdecode] at hcommand
  have hnames := h.isName_of_asks hasks
  obtain ⟨hmem, rfl⟩ := (Settings.asks_iff hraw).1 hasks
  refine ⟨s.jobOf raw, rfl, hcommand, ?_⟩
  -- the job may name what is predeclared in another order, or more often
  exact run_result_congr source (fun d hd => hnames d (Keyed.mem_ofList hd)) hmem

/-- A path that holds a zero character is not told as one that cannot be read. -/
theorem command_of_unsound (haccepted : settingsOf words = .ok s) (h : s.Named)
    (hinput : s.input = some p) (hdash : p.text ≠ ['-']) (hunsound : p.isSound = false) :
    (command words stdin files).ending = .unsoundPath ∧
      (command words stdin files).WritesNothing files := by
  obtain ⟨raw, -, hcommand⟩ := command_of_named haccepted h stdin files
  have hjob : (s.jobOf raw).input = some p :=
    Option.filter_eq_some_iff.2 ⟨hinput, by simpa using hdash⟩
  rw [hcommand, Job.perform_of_unsound (by rw [hjob]; exact hunsound)]
  exact ⟨rfl, .of_none rfl rfl⟩

/-- **All or nothing**, unless a result has been refused. -/
theorem writesNothing_or_refused (haccepted : settingsOf words = .ok s) (stdin : ByteArray)
    (files : FileTree) :
    let t := command words stdin files
    t.ending = .exit 0 ∨ t.WritesNothing files ∨
      ∃ p text, s.target = .file p ∧ files.refuses text = true ∧ t.Refused files (.file p) := by
  dsimp only
  rw [command, plan_eq_job haccepted]
  cases hjob : s.job with
  | error e =>
    cases e with
    | valueMissing => exact Or.inr (Or.inl (.of_none rfl rfl))
    | stop e =>
      cases e with
      | help => exact Or.inl rfl
      | version => exact Or.inl rfl
      | misuse m => exact Or.inr (Or.inl (.of_none rfl rfl))
  | ok j =>
    obtain ⟨-, raw, -, rfl⟩ := Settings.job_eq_ok_iff.1 hjob
    exact Job.perform_cases _ files.obstacle files.refuses _

/-- **A command does what the library does, and all of it or nothing, unless its result
is refused.** Options that can be read ask for some names to predeclare and some to
seed; of a name that is seeded twice the last body counts. What the library gives for
the source under these names is written where the result should go. A failure leaves no
trace. But a result that is refused when it is written leaves the file for it empty, and
it is the only thing that does; and where the path of the input cannot even be looked
up, the command does not end as it does where the input cannot be read. -/
theorem command_of_run (words : List Text) (stdin : ByteArray) (files : FileTree)
    (haccepted : settingsOf words = .ok s) :
    let t := command words stdin files
    (s.Named →
      (∃ predeclared definitions, s.Asks predeclared definitions) ∧
      (∀ predeclared definitions bytes source, s.Asks predeclared definitions →
        s.Opens stdin files (.ok bytes) → decode? bytes = some source →
        let o := run source predeclared (Keyed.ofList Prod.fst definitions)
        (∀ text, o.result = .ok text → s.target.CanBeOpened files →
          (files.refuses text = false → t.Delivers files text s.target) ∧
            (files.refuses text = true → t.Refused files s.target)) ∧
        ∀ e, o.result = .error e → t.Fails files 1) ∧
      (∀ trouble, s.Opens stdin files (.error trouble) → t.Fails files 1) ∧
      ∀ p, s.input = some p → p.text ≠ ['-'] → p.isSound = false →
        t.ending = .unsoundPath ∧ t.WritesNothing files) ∧
    (none ∉ s.names → (∃ n, some n ∈ s.names ∧ isName n = false) →
      t.Fails files 2 ∧ ∀ stdin' files', command words stdin' files' = t) ∧
    (t.ending = .exit 0 ∨ t.WritesNothing files ∨
      ∃ p text, s.target = .file p ∧ files.refuses text = true ∧ t.Refused files (.file p)) := by
  intro t
  refine ⟨fun hnamed => ⟨?_, ?_, fun trouble => command_of_unopened haccepted hnamed,
    fun p => command_of_unsound haccepted hnamed⟩, ?_,
    writesNothing_or_refused haccepted stdin files⟩
  · obtain ⟨raw, hraw, -⟩ := Settings.exists_job_eq_ok hnamed
    exact ⟨_, _, (Settings.asks_iff hraw).2 ⟨fun _ => Iff.rfl, rfl⟩⟩
  · intro predeclared definitions bytes source hasks hopens hdecode
    obtain ⟨j, htarget, hcommand, hrun⟩ :=
      exists_command_eq_finish haccepted hnamed hasks hopens hdecode
    intro o
    rw [show o.result = _ from hrun.symm, ← htarget, show t = _ from hcommand]
    exact ⟨fun text => Job.finish_of_ok, fun e => Job.finish_of_error⟩
  · rintro hvalues ⟨n, hn, hnot⟩
    refine command_of_not_named haccepted hvalues (fun hnamed => ?_) stdin files
    have hisName : isName n = true := hnamed _ hn
    rw [hnot] at hisName
    cases hisName

theorem command_of_run_twice :
    let words := ["-D", "A=1", "-D", "A=2", "-PB", "-o", "x"].map String.toList
    (command words (encode "A B".toList) {}).Delivers {} "2 B".toList
      (.file ⟨[], ["x".toList]⟩) := by
  intro words
  let s : Settings :=
    { target := .file ⟨[], ["x".toList]⟩
      definitions := [some "A=1".toList, some "A=2".toList]
      predeclared := [some "B".toList] }
  have haccepted : settingsOf words = .ok s := by decide +kernel
  have hdecode : decode? (encode "A B".toList) = some "A B".toList :=
    decode?_encode_of_not_mem (by decide)
  have hasks : s.Asks ["B".toList] [("A".toList, "1".toList), ("A".toList, "2".toList)] :=
    ⟨fun n => by simp [s, or_imp]; grind, by decide, by decide⟩
  have hopens : s.target.CanBeOpened {} := .file (by decide) (by decide +kernel)
  obtain ⟨hnamed, -, -⟩ := command_of_run words (encode "A B".toList) {} haccepted
  obtain ⟨-, hrun, -⟩ := hnamed (by decide +kernel)
  obtain ⟨hok, -⟩ := hrun _ _ _ _ hasks (.standard (by simp [s])) hdecode
  exact (hok _ (by decide +kernel) hopens).1 rfl

/-- **Not every input that cannot be read is told, and not every failure leaves the
files alone.** A path with a zero character is none that the system could look up and
report. And a file is emptied for a result that is then refused: here a body holds the
character that stands in for the refused ones. -/
theorem not_forall_command_exit :
    (¬ ∀ words stdin files s p trouble, settingsOf words = .ok s → s.Named →
      s.input = some p → p.text ≠ ['-'] → files.read p = .error trouble →
      (command words stdin files).ending = .exit 1) ∧
    ¬ ∀ words stdin files s, settingsOf words = .ok s → s.Named →
      (command words stdin files).ending = .exit 0 ∨
        (command words stdin files).WritesNothing files := by
  constructor
  · intro h
    have haccepted : settingsOf ["a\x00b".toList] =
        .ok { input := some ⟨[], ["a\x00b".toList]⟩ } := by decide +kernel
    have hunsound : (command ["a\x00b".toList] .empty {}).ending = .unsoundPath := by
      decide +kernel
    have hexit := h _ .empty {} _ _ .notFound haccepted (by decide) rfl (by decide)
      (by decide +kernel)
    rw [hunsound] at hexit
    cases hexit
  · intro h
    let s : Settings :=
      { target := .file ⟨[], ["x".toList]⟩, definitions := [some "A=\uFFFD".toList] }
    let files : FileTree :=
      { files := [(FileTree.placeOf ⟨[], ["x".toList]⟩, encode "B".toList)]
        refuses := fun t => t.contains '\uFFFD' }
    have haccepted : settingsOf (["-D", "A=\uFFFD", "-o", "x"].map String.toList) = .ok s := by
      decide +kernel
    have hdecode : decode? (encode "A".toList) = some "A".toList :=
      decode?_encode_of_not_mem (by decide)
    have hasks : s.Asks [] [("A".toList, "\uFFFD".toList)] :=
      ⟨fun n => by simp [s]; grind, by decide, by decide⟩
    have hopens : s.target.CanBeOpened files := .file (by decide) (by decide +kernel)
    obtain ⟨j, htarget, hcommand, hrun⟩ := exists_command_eq_finish haccepted (by decide +kernel)
      hasks (.standard (by simp [s])) hdecode
    have hresult : (run "A".toList j.predeclared j.definitions).result = .ok "\uFFFD".toList :=
      hrun.trans (by decide +kernel)
    have hrefused : (j.finish files.obstacle files.refuses "A".toList).Refused files j.target :=
      (Job.finish_of_ok hresult (htarget ▸ hopens)).2 rfl
    rw [← hcommand, htarget] at hrefused
    cases hrefused with
    | file hending hputs =>
      rcases h _ _ _ _ haccepted (by decide +kernel) with hexit | hnothing
      · rw [hending] at hexit
        cases hexit
      · have hwritten := hnothing.written
        rw [hputs.written] at hwritten
        cases hwritten

end Expand

end Cli

end LineMacro
