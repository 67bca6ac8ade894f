import Montage.Asset.Resolver
import Montage.Proofs.Work.Run

namespace Montage

/-!
# Accounts of files

A program of a job keeps account of its files: it writes only into files that
are in the account when it writes, whatever is answered, and the account only
grows, by names of the job. Programs that are put together of such programs,
one after the other or side by side, are such programs.
-/

/-- The files that a call may write or remove. -/
def Call.targets : Call → List Path
  | .writeFile path _ => [path]
  | .appendFile path _ => [path]
  | .download _ path => [path]
  | .encode arguments => (arguments.getLast?.map Path.ofText).toList
  | .removeFiles paths => paths
  | _ => []

/-- Whether a call belongs to the making of a result: it tells nobody of the
job, and neither waits nor cleans up. -/
def Call.isQuiet : Call → Bool
  | .makeDirectories _
  | .removeFiles _
  | .post _ _
  | .sleep _
  | .tell _ => false
  | _ => true

/-- Whether a call tells the registry about a job. -/
def Call.isTell : Call → Bool
  | .tell _ => true
  | _ => false

theorem Call.isTell_of_isQuiet
    {call : Call}
    (quiet : call.isQuiet = true) :
    call.isTell = false := by
  cases call with
  | tell update => cases quiet
  | _ => rfl

namespace Program

variable {α β γ : Type}

/-- Every call of a program, whatever was answered before, is of a kind. -/
inductive Limited
    (permitted : Call → Prop)
    {α : Type} :
    Program α → Prop
  | done (value : α) : Limited permitted (.done value)
  | step
      {call : Call}
      {next : call.Answer → Program α}
      (isPermitted : permitted call)
      (goesOn : ∀ answer, Limited permitted (next answer)) :
      Limited permitted (.step call next)

namespace Limited

variable {permitted : Call → Prop} {program : Program α}

theorem andThen
    {continuation : α → Program β}
    (limited : program.Limited permitted)
    (goesOn : ∀ value, (continuation value).Limited permitted) :
    (program.andThen continuation).Limited permitted := by
  induction limited with
  | done value => exact goesOn value
  | step isPermitted _ inductionHypothesis =>
      exact .step isPermitted inductionHypothesis

theorem perform
    {call : Call}
    (isPermitted : permitted call) :
    (Program.perform call).Limited permitted :=
  .step isPermitted .done

theorem beside
    {call : Call}
    {next : call.Answer → Program β → Program γ}
    {alone : β → Program γ}
    {other : Program β}
    (schedules : permitted .schedule)
    (isPermitted : permitted call)
    (goesOn :
      ∀ answer rest,
        rest.Limited permitted →
        (next answer rest).Limited permitted)
    (goesOnAlone : ∀ value, (alone value).Limited permitted)
    (limited : other.Limited permitted) :
    (Program.beside call next alone other).Limited permitted := by
  induction limited with
  | done value => exact goesOnAlone value
  | step otherPermitted otherGoesOn inductionHypothesis =>
      rw [Program.beside]
      refine .step schedules ?_
      intro first
      cases first with
      | true =>
          exact .step isPermitted fun answer =>
            goesOn answer _ (.step otherPermitted otherGoesOn)
      | false => exact .step otherPermitted inductionHypothesis

theorem both
    {other : Program β}
    (schedules : permitted .schedule)
    (limited : program.Limited permitted)
    (otherLimited : other.Limited permitted) :
    (Program.both program other).Limited permitted := by
  induction limited generalizing other with
  | done value => exact otherLimited.andThen fun second => .done (value, second)
  | step isPermitted goesOn inductionHypothesis =>
      apply beside schedules isPermitted _ _ otherLimited
      · intro answer rest restLimited
        exact inductionHypothesis answer restLimited
      · intro second
        exact .step isPermitted fun answer =>
          (goesOn answer).andThen fun first => .done (first, second)

theorem gather
    {programs : List (Program α)}
    (schedules : permitted .schedule)
    (limited : ∀ program ∈ programs, program.Limited permitted) :
    (Program.gather programs).Limited permitted := by
  induction programs with
  | nil => exact .done []
  | cons program rest inductionHypothesis =>
      have first := limited program List.mem_cons_self
      have others :=
        inductionHypothesis fun other member =>
          limited other (List.mem_cons_of_mem program member)
      exact (both schedules first others).andThen fun values =>
        .done (values.1 :: values.2)

/-- Every call that a run makes is of the kind of its program. -/
theorem of_run
    {State : Type}
    {surroundings : Surroundings State}
    {state final : State}
    {events : List (Event State)}
    {value : α}
    (limited : program.Limited permitted)
    (run : Run surroundings state program events value final) :
    ∀ event ∈ events, permitted event.call := by
  induction run with
  | done state value => simp
  | step others answered rest inductionHypothesis =>
      cases limited with
      | step isPermitted goesOn =>
          intro event member
          rcases List.mem_cons.mp member with isFirst | isLater
          · subst isFirst
            exact isPermitted
          · exact inductionHypothesis (goesOn _) event isLater

end Limited

end Program

/-- The ends of the names of a job's files. -/
inductive FileSuffix (references : List AssetReference) : String → Prop
  | output : FileSuffix references "_output.mp4"
  | subtitles : FileSuffix references "_subs.ass"
  | text : FileSuffix references "_text.txt"
  | asset
      {reference : AssetReference}
      {extension : String}
      (number : Nat)
      (isReferred : reference ∈ references)
      (found :
        assetExtension reference.address reference.kind = .ok extension) :
      FileSuffix references ("_asset_" ++ showNatural number ++ extension)

namespace Workspace

/-- A later state of a workspace: it has more names of the same job. -/
structure Extends
    (references : List AssetReference)
    (before after : Workspace) :
    Prop where
  jobId : after.jobId = before.jobId
  root : after.root = before.root
  files : before.files <+: after.files
  names :
    ∀ path ∈ after.files,
      path ∈ before.files ∨
        ∃ suffix, FileSuffix references suffix ∧ path = before.named suffix

namespace Extends

variable {references : List AssetReference}

theorem refl (workspace : Workspace) :
    workspace.Extends references workspace where
  jobId := rfl
  root := rfl
  files := List.prefix_rfl
  names := fun _ member => Or.inl member

theorem trans
    {first second third : Workspace}
    (earlier : first.Extends references second)
    (later : second.Extends references third) :
    first.Extends references third where
  jobId := later.jobId.trans earlier.jobId
  root := later.root.trans earlier.root
  files := earlier.files.trans later.files
  names := by
    intro path member
    rcases later.names path member with inSecond | ⟨suffix, isSuffix, isNamed⟩
    · exact earlier.names path inSecond
    · right
      refine ⟨suffix, isSuffix, ?_⟩
      rw [isNamed]
      simp only [named, earlier.jobId, earlier.root]

end Extends

theorem mem_track
    (workspace : Workspace)
    (path : Path) :
    path ∈ (workspace.track path).files := by
  unfold track
  by_cases tracked : workspace.files.contains path = true
  · rw [if_pos tracked]
    exact List.contains_iff_mem.mp tracked
  · rw [if_neg tracked]
    exact List.mem_append_right _ (List.mem_singleton_self path)

theorem track_extends
    {references : List AssetReference}
    (workspace : Workspace)
    {suffix : String}
    (isSuffix : FileSuffix references suffix) :
    workspace.Extends references
      (workspace.track (workspace.named suffix)) := by
  unfold track
  by_cases tracked : workspace.files.contains (workspace.named suffix) = true
  · rw [if_pos tracked]
    exact .refl workspace
  · rw [if_neg tracked]
    refine ⟨rfl, rfl, List.prefix_append _ _, ?_⟩
    intro path member
    rcases List.mem_append.mp member with isOld | isNew
    · exact Or.inl isOld
    · exact Or.inr ⟨suffix, isSuffix, List.mem_singleton.mp isNew⟩

theorem track_kept
    (workspace : Workspace)
    (path : Path) :
    (workspace.track path).kept = workspace.kept := by
  unfold track
  split <;> rfl

/-- To except a path from removal leaves the names of a workspace. -/
theorem keep_extends
    {references : List AssetReference}
    (workspace : Workspace)
    (path : Path) :
    workspace.Extends references (workspace.keep path) where
  jobId := rfl
  root := rfl
  files := List.prefix_rfl
  names := fun _ member => Or.inl member

/-- A workspace permits calls that make the result, into its files only. -/
structure Permits
    (workspace : Workspace)
    (call : Call) :
    Prop where
  quiet : call.isQuiet = true
  targets : ∀ path ∈ call.targets, path ∈ workspace.files

/-- A call that writes nothing is permitted if it is quiet. -/
theorem permits_of_no_targets
    (workspace : Workspace)
    {call : Call}
    (quiet : call.isQuiet = true)
    (noTargets : call.targets = []) :
    workspace.Permits call where
  quiet := quiet
  targets := by simp [noTargets]

end Workspace

/-- Whatever is answered, a program keeps account of its files, excepts none
from removal, and its value is as expected if it does not fail. -/
inductive Accounted
    (references : List AssetReference)
    {α : Type}
    (expected : α → JobFiles → Prop) :
    JobFiles → Program (Outcome α × JobFiles) → Prop
  | done
      {files : JobFiles}
      {outcome : Outcome α}
      (isExpected : ∀ value, outcome = .ok value → expected value files) :
      Accounted references expected files (.done (outcome, files))
  | call
      {files : JobFiles}
      {call : Call}
      {next : call.Answer → Program (Outcome α × JobFiles)}
      (permitted : files.workspace.Permits call)
      (goesOn : ∀ answer, Accounted references expected files (next answer)) :
      Accounted references expected files (.step call next)
  | account
      {before after : JobFiles}
      {program : Program (Outcome α × JobFiles)}
      (extended : before.workspace.Extends references after.workspace)
      (kept : after.workspace.kept = before.workspace.kept)
      (goesOn : Accounted references expected after program) :
      Accounted references expected before program

/-- What follows on an accounted program goes on from the account it left. -/
theorem Accounted.andThen
    {references : List AssetReference}
    {α β : Type}
    {expected : α → JobFiles → Prop}
    {wanted : β → JobFiles → Prop}
    {files : JobFiles}
    {program : Program (Outcome α × JobFiles)}
    {continuation : Outcome α × JobFiles → Program (Outcome β × JobFiles)}
    (accounted : Accounted references expected files program)
    (goesOn :
      ∀ ended : Outcome α × JobFiles,
        files.workspace.Extends references ended.2.workspace →
        (∀ value, ended.1 = .ok value → expected value ended.2) →
        Accounted references wanted ended.2 (continuation ended)) :
    Accounted references wanted files (program.andThen continuation) := by
  induction accounted with
  | @done files outcome isExpected =>
      exact goesOn (outcome, files) (.refl _) isExpected
  | call permitted _ inductionHypothesis =>
      exact .call permitted fun answer => inductionHypothesis answer goesOn
  | account extended kept _ inductionHypothesis =>
      exact .account extended kept <| inductionHypothesis fun ended later =>
        goesOn ended (extended.trans later)

namespace JobProgram

variable {α β : Type} {references : List AssetReference}
  {expected : α → JobFiles → Prop} {files : JobFiles}

/-- A program of a job keeps account from an account on. -/
def Accounts
    (references : List AssetReference)
    (expected : α → JobFiles → Prop)
    (files : JobFiles)
    (program : JobProgram α) :
    Prop :=
  Accounted references expected files (program.start files)

namespace Accounts

theorem pure
    {value : α}
    (isExpected : expected value files) :
    Accounts references expected files (Pure.pure value) := by
  apply Accounted.done
  intro other same
  cases same
  exact isExpected

theorem ofOutcome
    {outcome : Outcome α}
    (isExpected : ∀ value, outcome = .ok value → expected value files) :
    Accounts references expected files (JobProgram.ofOutcome outcome) :=
  .done isExpected

theorem accounted_andThen
    {ending : α → Program (Outcome β × JobFiles)}
    {wanted : β → JobFiles → Prop}
    {program : Program α}
    (limited : program.Limited files.workspace.Permits)
    (goesOn : ∀ value, Accounted references wanted files (ending value)) :
    Accounted references wanted files (program.andThen ending) := by
  induction limited with
  | done value => exact goesOn value
  | step isPermitted _ inductionHypothesis =>
      exact .call isPermitted inductionHypothesis

theorem attempt
    {program : Program (Outcome α)}
    (limited : program.Limited files.workspace.Permits)
    (isExpected : ∀ value, expected value files) :
    Accounts references expected files (JobProgram.attempt program) := by
  unfold Accounts
  rw [start_attempt]
  exact accounted_andThen limited fun outcome =>
    .done fun value _ => isExpected value

/-- A name that is reserved is in the account from then on. -/
theorem reserve
    {wanted : Path → JobFiles → Prop}
    {suffix : String}
    (isSuffix : FileSuffix references suffix)
    (isWanted :
      wanted (files.workspace.named suffix)
        { files with
          workspace :=
            files.workspace.track (files.workspace.named suffix) }) :
    Accounts references wanted files (JobProgram.reserve suffix) := by
  unfold Accounts
  rw [start_reserve]
  refine .account (files.workspace.track_extends isSuffix)
    (files.workspace.track_kept _) (.done ?_)
  intro value same
  cases same
  exact isWanted

/-- What follows on a program goes on from the account that it left. -/
theorem bind
    {wanted : β → JobFiles → Prop}
    {program : JobProgram α}
    {continuation : α → JobProgram β}
    (accounts : Accounts references expected files program)
    (goesOn :
      ∀ value after,
        files.workspace.Extends references after.workspace →
        expected value after →
        Accounts references wanted after (continuation value)) :
    Accounts references wanted files (program >>= continuation) := by
  unfold Accounts
  rw [start_bind]
  apply Accounted.andThen accounts
  rintro ⟨outcome, after⟩ extended isExpected
  cases outcome with
  | ok value => exact goesOn value after extended (isExpected value rfl)
  | error failure =>
      apply Accounted.done
      intro value same
      cases same

/-- To ask for the account leaves it. -/
theorem bindFiles
    {wanted : β → JobFiles → Prop}
    {continuation : JobFiles → JobProgram β}
    (goesOn : Accounts references wanted files (continuation files)) :
    Accounts references wanted files
      (JobProgram.files >>= continuation) := by
  unfold Accounts
  rw [start_bind, start_files]
  exact goesOn

/-- A known outcome leaves the account, and stops the program if it fails. -/
theorem bindOutcome
    {wanted : β → JobFiles → Prop}
    {outcome : Outcome α}
    {continuation : α → JobProgram β}
    (goesOn :
      ∀ value,
        outcome = .ok value →
        Accounts references wanted files (continuation value)) :
    Accounts references wanted files
      (JobProgram.ofOutcome outcome >>= continuation) := by
  unfold Accounts
  rw [start_bind, start_ofOutcome]
  cases outcome with
  | ok value => exact goesOn value rfl
  | error failure =>
      apply Accounted.done
      intro value same
      cases same

/-- A program that knows nothing of the job leaves the account. -/
theorem bindProgram
    {wanted : β → JobFiles → Prop}
    {program : Program α}
    {continuation : α → JobProgram β}
    (limited : program.Limited files.workspace.Permits)
    (goesOn :
      ∀ value, Accounts references wanted files (continuation value)) :
    Accounts references wanted files
      (JobProgram.ofProgram program >>= continuation) := by
  unfold Accounts
  rw [start_bind, start_ofProgram, Program.andThen_assoc]
  exact accounted_andThen limited goesOn

/-- So does one that may fail, and stops the program if it does. -/
theorem bindAttempt
    {wanted : β → JobFiles → Prop}
    {program : Program (Outcome α)}
    {continuation : α → JobProgram β}
    (limited : program.Limited files.workspace.Permits)
    (goesOn :
      ∀ value, Accounts references wanted files (continuation value)) :
    Accounts references wanted files
      (JobProgram.attempt program >>= continuation) := by
  unfold Accounts
  rw [start_bind, start_attempt, Program.andThen_assoc]
  apply accounted_andThen limited
  intro outcome
  cases outcome with
  | ok value => exact goesOn value
  | error failure =>
      apply Accounted.done
      intro value same
      cases same

/-- To remember the file of an asset leaves the workspace. -/
theorem bindRememberAsset
    {wanted : β → JobFiles → Prop}
    {address : String}
    {path : Path}
    {continuation : Unit → JobProgram β}
    (goesOn :
      Accounts references wanted
        { files with assets := setField address path files.assets }
        (continuation ())) :
    Accounts references wanted files
      (JobProgram.rememberAsset address path >>= continuation) := by
  have same :
      files.workspace.Extends references
        ({ files with assets := setField address path files.assets } :
          JobFiles).workspace :=
    .refl files.workspace
  unfold Accounts
  rw [start_bind, start_rememberAsset]
  exact .account same rfl goesOn

end Accounts

end JobProgram

/-! ## Runs that keep account -/

/-- Along a run the account only grows, and every target of a call is in the
account when the call is made. -/
inductive Tracked
    {State : Type}
    (references : List AssetReference) :
    Workspace → List (Event State) → Workspace → Prop
  | ended (workspace : Workspace) :
      Tracked references workspace [] workspace
  | call
      {before after : Workspace}
      {event : Event State}
      {events : List (Event State)}
      (inAccount : ∀ path ∈ event.call.targets, path ∈ before.files)
      (rest : Tracked references before events after) :
      Tracked references before (event :: events) after
  | account
      {before between after : Workspace}
      {events : List (Event State)}
      (extended : before.Extends references between)
      (rest : Tracked references between events after) :
      Tracked references before events after

namespace Tracked

variable {State : Type} {references : List AssetReference}
  {before between after : Workspace} {first second : List (Event State)}

theorem append
    (earlier : Tracked references before first between)
    (later : Tracked references between second after) :
    Tracked references before (first ++ second) after := by
  induction earlier with
  | ended workspace => exact later
  | call inAccount _ inductionHypothesis =>
      exact .call inAccount (inductionHypothesis later)
  | account extended _ inductionHypothesis =>
      exact .account extended (inductionHypothesis later)

theorem extended
    {workspace : Workspace}
    {events : List (Event State)}
    (tracked : Tracked references before events workspace) :
    before.Extends references workspace := by
  induction tracked with
  | ended workspace => exact .refl workspace
  | call _ _ inductionHypothesis => exact inductionHypothesis
  | account extended _ inductionHypothesis =>
      exact extended.trans inductionHypothesis

/-- At the end, all that was written is in the account. -/
theorem targets_mem
    {workspace : Workspace}
    {events : List (Event State)}
    (tracked : Tracked references before events workspace) :
    ∀ event ∈ events, ∀ path ∈ event.call.targets,
      path ∈ workspace.files := by
  induction tracked with
  | ended workspace => simp
  | call inAccount rest inductionHypothesis =>
      intro event member path isTarget
      rcases List.mem_cons.mp member with isFirst | isLater
      · subst isFirst
        exact rest.extended.files.subset (inAccount path isTarget)
      · exact inductionHypothesis event isLater path isTarget
  | account _ _ inductionHypothesis => exact inductionHypothesis

end Tracked

/-- What every run of a program that keeps account does. -/
structure Accounted.Result
    {State α : Type}
    (references : List AssetReference)
    (expected : α → JobFiles → Prop)
    (before : JobFiles)
    (events : List (Event State))
    (outcome : Outcome α)
    (after : JobFiles) :
    Prop where
  extended : before.workspace.Extends references after.workspace
  kept : after.workspace.kept = before.workspace.kept
  isExpected : ∀ value, outcome = .ok value → expected value after
  quiet : ∀ event ∈ events, event.call.isQuiet = true
  tracked : Tracked references before.workspace events after.workspace

theorem Accounted.of_run
    {State α : Type}
    {references : List AssetReference}
    {expected : α → JobFiles → Prop}
    {before after : JobFiles}
    {program : Program (Outcome α × JobFiles)}
    (accounted : Accounted references expected before program)
    {surroundings : Surroundings State}
    {state final : State}
    {events : List (Event State)}
    {outcome : Outcome α}
    (run : Run surroundings state program events (outcome, after) final) :
    Accounted.Result references expected before events outcome after := by
  induction accounted generalizing state events with
  | done isExpected =>
      cases run
      exact {
        extended := .refl _
        kept := rfl
        isExpected
        quiet := by simp
        tracked := .ended _ }
  | call permitted _ inductionHypothesis =>
      cases run with
      | step others answered rest =>
          have later := inductionHypothesis _ rest
          exact {
            extended := later.extended
            kept := later.kept
            isExpected := later.isExpected
            quiet := by
              intro event member
              rcases List.mem_cons.mp member with isFirst | isLater
              · subst isFirst
                exact permitted.quiet
              · exact later.quiet event isLater
            tracked := .call permitted.targets later.tracked }
  | account extended kept _ inductionHypothesis =>
      have later := inductionHypothesis run
      exact {
        extended := extended.trans later.extended
        kept := later.kept.trans kept
        isExpected := later.isExpected
        quiet := later.quiet
        tracked := .account extended later.tracked }

end Montage
