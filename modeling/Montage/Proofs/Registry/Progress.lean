import Montage.Proofs.Registry.Calls

namespace Montage

/-!
# Progress of records

A record goes forward only. From the moment it is written until it is replaced
or dropped, neither its rank nor its progress falls, and a final record stays
exactly as it is, whatever is told, of whichever jobs, in whichever order.
-/

namespace Amount

theorem position?_whole (value : Int) :
    position? (whole value) = some (0, value * unitsPerOne) :=
  rfl

theorem whole_less
    (first second : Int) :
    (whole first).less (whole second) = decide (first < second) := by
  have positive : (0 : Int) < unitsPerOne :=
    Int.natCast_pos.mpr (powerOfTwo_pos 1074)
  unfold less
  simp only [position?_whole, Int.lt_irrefl, decide_false, beq_self_eq_true,
    Bool.true_and, Bool.false_or, Int.mul_lt_mul_right positive]

theorem whole_minimum
    (first second : Int) :
    (whole first).minimum (whole second) = whole (min first second) := by
  unfold minimum
  rw [whole_less]
  by_cases smaller : second < first
  · simp [smaller, Int.min_eq_right (Int.le_of_lt smaller)]
  · simp [smaller, Int.min_eq_left (Int.not_lt.mp smaller)]

theorem whole_maximum
    (first second : Int) :
    (whole first).maximum (whole second) = whole (max first second) := by
  unfold maximum
  rw [whole_less]
  by_cases greater : first < second
  · simp [greater, Int.max_eq_right (Int.le_of_lt greater)]
  · simp [greater, Int.max_eq_left (Int.not_lt.mp greater)]

end Amount

namespace Job

/-! ## One update of a record -/

/-- Progress after an update, in whole numbers. -/
def progressTold
    (status : JobStatus)
    (progress : Int)
    (told : Option Int) :
    Int :=
  if status = .done then
    100
  else
    match told with
    | none => progress
    | some amount => max progress (min 100 amount)

theorem progressAfter_whole
    {job : Job}
    {progress : Int}
    (whole : job.progress = .whole progress)
    (status : JobStatus)
    (told : Option Int) :
    job.progressAfter status (.ofInteger? told) =
      .ok (.whole (progressTold status progress told)) := by
  unfold progressAfter progressTold
  by_cases done : status = .done
  · simp [done, fullProgress]
  · cases told with
    | none => simp [done, Json.ofInteger?, whole]
    | some amount =>
        simp [done, Json.ofInteger?, Json.ordered, Json.amount?, Except.map,
          whole, fullProgress, Amount.whole_minimum, Amount.whole_maximum]

/-- What an update makes of a record whose progress is a whole number. -/
structure Moved
    (before : Job)
    (target : JobStatus)
    (reached : Int)
    (told : Option Int)
    (after : Job) :
    Prop where
  id : after.id = before.id
  project : after.project = before.project
  status : after.status = target
  progress : after.progress = .whole (progressTold target reached told)

/-- An update moves a record even if it fails at one of its fields. -/
theorem updated_moved
    {job : Job}
    {progress : Int}
    (whole : job.progress = .whole progress)
    (status : JobStatus)
    (told : Option Int)
    (fields : Fields) :
    Moved job status progress told
      (job.updated status (.ofInteger? told) fields).2 := by
  have after := progressAfter_whole whole status told
  let moved : Job := {
    job with
    status
    progress := .whole (progressTold status progress told) }
  have results := setResults_sameStanding moved fields
  have shape :
      job.updated status (.ofInteger? told) fields =
        moved.setResults fields := by
    simp [updated, moveTo, after, moved]
  rw [shape]
  exact ⟨results.id, results.project, results.status, results.progress⟩

/-! ## Sound records, and the order between them -/

/-- Progress is a percentage, and all of it when a job is done. -/
def Sound (job : Job) : Prop :=
  ∃ progress : Int,
    job.progress = .whole progress ∧
      0 ≤ progress ∧ progress ≤ 100 ∧
      (job.status = .done → progress = 100)

/-- A later state of a record: it only went forward, and not if it was final. -/
structure Precedes (before after : Job) : Prop where
  rank : before.status.rank ≤ after.status.rank
  progress :
    ∃ earlier later : Int,
      before.progress = .whole earlier ∧
        after.progress = .whole later ∧
        earlier ≤ later
  final : before.status.isFinal = true → after = before

theorem Sound.precedes_self
    {job : Job}
    (sound : job.Sound) :
    job.Precedes job := by
  obtain ⟨progress, whole, _⟩ := sound
  exact ⟨Nat.le_refl _, ⟨progress, progress, whole, whole, Int.le_refl _⟩,
    fun _ => rfl⟩

theorem Precedes.trans
    {first second third : Job}
    (earlier : first.Precedes second)
    (later : second.Precedes third) :
    first.Precedes third where
  rank := Nat.le_trans earlier.rank later.rank
  progress := by
    obtain ⟨least, middle, isFirst, isSecond, rises⟩ := earlier.progress
    obtain ⟨same, greatest, isSame, isThird, risesAgain⟩ := later.progress
    have agree : middle = same :=
      Amount.whole.inj (isSecond.symm.trans isSame)
    exact ⟨least, greatest, isFirst, isThird,
      Int.le_trans rises (agree ▸ risesAgain)⟩
  final := by
    intro isFinal
    have kept : second = first := earlier.final isFinal
    subst kept
    exact later.final isFinal

theorem fresh_sound
    (id : String)
    (project : Json)
    (now : Binary64) :
    (Registry.fresh id project now).Sound :=
  ⟨0, rfl, by decide, by decide, by simp [Registry.fresh]⟩

/-- Progress that is told stays a percentage. -/
theorem progressTold_bounds
    {progress : Int}
    (nonnegative : 0 ≤ progress)
    (bounded : progress ≤ 100)
    (status : JobStatus)
    (told : Option Int) :
    progress ≤ progressTold status progress told ∧
      progressTold status progress told ≤ 100 := by
  unfold progressTold
  split
  · exact ⟨bounded, Int.le_refl 100⟩
  · split
    · exact ⟨Int.le_refl _, bounded⟩
    · omega

theorem Moved.sound
    {before after : Job}
    {status : JobStatus}
    {progress : Int}
    {told : Option Int}
    (moved : Moved before status progress told after)
    (nonnegative : 0 ≤ progress)
    (bounded : progress ≤ 100) :
    after.Sound := by
  have bounds := progressTold_bounds nonnegative bounded status told
  refine ⟨_, moved.progress, by omega, bounds.2, ?_⟩
  intro done
  have isDone : status = .done := moved.status.symm.trans done
  simp [progressTold, isDone]

/-- An update that is heeded takes a sound record forward. -/
theorem Moved.precedes
    {before after : Job}
    {status : JobStatus}
    {progress : Int}
    {told : Option Int}
    (moved : Moved before status progress told after)
    (whole : before.progress = .whole progress)
    (nonnegative : 0 ≤ progress)
    (bounded : progress ≤ 100)
    (heeded : before.ignores status = false) :
    before.Precedes after := by
  simp only [ignores, Bool.or_eq_false_iff, decide_eq_false_iff_not] at heeded
  have bounds := progressTold_bounds nonnegative bounded status told
  refine ⟨?_, ⟨progress, _, whole, moved.progress, bounds.1⟩, ?_⟩
  · rw [moved.status]
    omega
  · intro isFinal
    rw [heeded.1] at isFinal
    cases isFinal

end Job

namespace Registry

/-! ## One call -/

/-- Records stand under their ids, and each of them is sound. -/
structure Steady (registry : Registry) : Prop where
  wellKeyed : registry.WellKeyed
  sound :
    ∀ {id : String} {job : Job},
      registry.find? id = some job →
      job.Sound

/-- What an update writes comes forward from what it starts from. -/
theorem Updates.base_sound
    {registry : Registry}
    (steady : registry.Steady)
    {id : String}
    {status : JobStatus}
    {fields used : Fields}
    {now : Binary64}
    {job : Job}
    (updates : registry.Updates id status fields now job used) :
    job.Sound := by
  cases updates with
  | known found heeded => exact steady.sound found
  | unknown absent => exact Job.fresh_sound _ _ _

/-- A call keeps every record sound. -/
theorem Steady.run
    {registry : Registry}
    (steady : registry.Steady)
    (hook : EvictionHook)
    (call : RegistryCall) :
    (call.run hook registry).Steady where
  wellKeyed := steady.wellKeyed.run hook call
  sound := by
    intro id job found
    cases run_origin steady.wellKeyed found with
    | kept before => exact steady.sound before
    | entered replaces => exact Job.fresh_sound _ _ _
    | @updated _ status told fields used _ _ _ base isTell named updates =>
        obtain ⟨progress, whole, nonnegative, bounded, _⟩ :=
          updates.base_sound steady
        exact (Job.updated_moved whole status told used).sound
          nonnegative bounded

/-- A call that does not replace a record takes it forward. -/
theorem Steady.precedes_run
    {registry : Registry}
    (steady : registry.Steady)
    {hook : EvictionHook}
    {call : RegistryCall}
    {id : String}
    {old new : Job}
    (stays : ¬ registry.Replaces call id)
    (before : registry.find? id = some old)
    (after : (call.run hook registry).find? id = some new) :
    old.Precedes new := by
  cases run_origin steady.wellKeyed after with
  | kept found =>
      have same : old = new := Option.some.inj (before.symm.trans found)
      subst same
      exact (steady.sound before).precedes_self
  | entered replaces => exact (stays replaces).elim
  | @updated _ status told fields used _ _ _ base isTell named updates =>
      cases updates with
      | known found heeded =>
          have same : old = base := Option.some.inj (before.symm.trans found)
          subst same
          obtain ⟨progress, whole, nonnegative, bounded, _⟩ :=
            steady.sound before
          have moved := Job.updated_moved whole status told fields
          have forward :=
            moved.precedes whole nonnegative bounded heeded
          refine ⟨forward.rank, forward.progress, ?_⟩
          intro isFinal
          simp [Job.ignores, isFinal] at heeded
      | unknown absent =>
          rw [absent] at before
          cases before

/-! ## Histories -/

theorem opened_steady
    (limit highWater : Int)
    (lifetime : Binary64) :
    (opened limit highWater lifetime).Steady where
  wellKeyed := opened_wellKeyed limit highWater lifetime
  sound := by
    intro id job found
    cases found

theorem Steady.play
    {registry : Registry}
    (steady : registry.Steady)
    (hook : EvictionHook)
    (calls : List RegistryCall) :
    (registry.play hook calls).Steady := by
  induction calls generalizing registry with
  | nil => exact steady
  | cons call rest inductionHypothesis =>
      exact inductionHypothesis (steady.run hook call)

/-- Through all calls, the record of an id is neither replaced nor dropped. -/
def Lasts
    (hook : EvictionHook)
    (id : String) :
    Registry → List RegistryCall → Prop
  | _, [] => True
  | registry, call :: rest =>
      ¬ registry.Replaces call id ∧
        ((call.run hook registry).find? id).isSome ∧
        Lasts hook id (call.run hook registry) rest

/-- A record that lasts through calls is taken forward by all of them. -/
theorem Steady.precedes_play
    {registry : Registry}
    (steady : registry.Steady)
    {hook : EvictionHook}
    {calls : List RegistryCall}
    {id : String}
    {old new : Job}
    (lasts : Lasts hook id registry calls)
    (before : registry.find? id = some old)
    (after : (registry.play hook calls).find? id = some new) :
    old.Precedes new := by
  induction calls generalizing registry old with
  | nil =>
      have same : old = new := Option.some.inj (before.symm.trans after)
      subst same
      exact (steady.sound before).precedes_self
  | cons call rest inductionHypothesis =>
      obtain ⟨stays, tracked, later⟩ := lasts
      obtain ⟨middle, found⟩ := Option.isSome_iff_exists.mp tracked
      have first : old.Precedes middle :=
        steady.precedes_run stays before found
      exact first.trans
        (inductionHypothesis (steady.run hook call) later found after)

/--
At every point of every history, records are sound; from there on, a record that
lasts goes forward and is frozen once it is final; and the next call, whatever
it is, leaves the records of all other ids or drops them.
-/
theorem histories_go_forward
    (hook : EvictionHook)
    (limit highWater : Int)
    (lifetime : Binary64)
    (earlier later : List RegistryCall) :
    let before := (opened limit highWater lifetime).play hook earlier
    let after := before.play hook later
    (∀ id job, before.find? id = some job → job.Sound) ∧
      (∀ id old new,
        Lasts hook id before later →
        before.find? id = some old →
        after.find? id = some new →
        old.Precedes new) ∧
      (∀ call : RegistryCall, ∀ id,
        call.id? ≠ some id →
        (call.run hook before).find? id = before.find? id ∨
          (call.run hook before).find? id = none) := by
  intro before after
  have steady : before.Steady :=
    (opened_steady limit highWater lifetime).play hook earlier
  refine ⟨fun id job found => steady.sound found, ?_, ?_⟩
  · intro id old new lasts found foundLater
    exact steady.precedes_play lasts found foundLater
  · intro call id elsewhere
    exact find?_run_of_ne steady.wellKeyed hook elsewhere

/-- A record that is done stays so when an error is told. -/
theorem done_record_after_error :
    let hook : EvictionHook := fun _ => none
    let before := (opened 1 5 60).play hook [.enroll "a" .null 0 0]
    let later : List RegistryCall := [
      .tell "a" "done" (some 7) [] 1 1,
      .tell "a" "error" none [("error", .text "late")] 2 2]
    ∃ old new,
      Lasts hook "a" before later ∧
      before.find? "a" = some old ∧
      (before.play hook later).find? "a" = some new ∧
      new.status = .done ∧
      old.Precedes new := by
  intro hook before later
  have lasts : Lasts hook "a" before later := by
    refine ⟨?_, by rfl, ?_, by rfl, trivial⟩
    · rintro ⟨⟨_, _, _, isEnroll⟩, _⟩
      cases isEnroll
    · rintro ⟨⟨_, _, _, isEnroll⟩, _⟩
      cases isEnroll
  obtain ⟨old, found⟩ : ∃ old, before.find? "a" = some old := ⟨_, rfl⟩
  obtain ⟨new, foundLater, isDone⟩ :
      ∃ new,
        (before.play hook later).find? "a" = some new ∧
          new.status = .done :=
    ⟨_, rfl, rfl⟩
  refine ⟨old, new, lasts, found, foundLater, isDone, ?_⟩
  exact (histories_go_forward hook 1 5 60 [.enroll "a" .null 0 0] later).2.1
    "a" old new lasts found foundLater

end Registry

end Montage
