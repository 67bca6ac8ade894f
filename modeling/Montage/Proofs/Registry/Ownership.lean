import Montage.Proofs.Registry.Progress

namespace Montage

/-!
# Records of running jobs

The record of a job that holds a slot is there for this job alone: whatever is
asked about other jobs leaves it and the slot, and what the job itself tells is
written into it, unless the record is final or further.
-/

namespace Job

/-- A record at a station, with the progress that was told. -/
def movedTo
    (job : Job)
    (status : JobStatus)
    (progress : Int)
    (told : Option Int) :
    Job :=
  { job with
    status
    progress := .whole (progressTold status progress told) }

/-- An update moves a record, and then sets its fields. -/
theorem updated_eq
    {job : Job}
    {progress : Int}
    (whole : job.progress = .whole progress)
    (status : JobStatus)
    (told : Option Int)
    (fields : Fields) :
    job.updated status (.ofInteger? told) fields =
      (job.movedTo status progress told).setResults fields := by
  simp [updated, moveTo, progressAfter_whole whole status told, movedTo]

end Job

/-- A station is found by its name. -/
theorem JobStatus.find?_name (status : JobStatus) :
    find? status.name = some status := by
  cases status <;> rfl

namespace Registry

/-- A job holds a slot, and its record is found. -/
structure Owned
    (registry : Registry)
    (id : String)
    (job : Job) :
    Prop where
  wellKeyed : registry.WellKeyed
  holds : registry.holdsSlot id = true
  found : registry.find? id = some job

/-- A call about another job leaves the slot of a job. -/
theorem holdsSlot_run_of_ne
    {registry : Registry}
    (hook : EvictionHook)
    {call : RegistryCall}
    {id : String}
    (elsewhere : call.id? ≠ some id)
    (holds : registry.holdsSlot id = true) :
    (call.run hook registry).holdsSlot id = true := by
  have member : id ∈ registry.slots := List.contains_iff_mem.mp holds
  apply List.contains_iff_mem.mpr
  cases call with
  | enroll asked project now later =>
      rcases enroll_cases registry asked project now later hook with
        ⟨_, error, refused⟩ | ⟨_, taken⟩
      · simpa only [RegistryCall.run, refused] using member
      · simp only [RegistryCall.run, taken, dropStaleFor]
        rw [(dropStale_swept _ later hook).slots]
        exact List.mem_append_left _ member
  | tell asked statusName progress fields now later =>
      simp only [RegistryCall.run]
      rw [(tell_sameHolders registry asked statusName (.ofInteger? progress)
        fields now later hook).slots]
      exact member
  | release asked =>
      have different : id ≠ asked := fun same => elsewhere (same ▸ rfl)
      simpa [RegistryCall.run, release, different] using member
  | startTask asked => exact member
  | finish asked =>
      have different : id ≠ asked := fun same => elsewhere (same ▸ rfl)
      simpa [RegistryCall.run, finish, release, different] using member
  | sweep now =>
      simp only [RegistryCall.run]
      rw [(dropStale_swept registry now hook).slots]
      exact member

/-- A call about another job leaves the record of a job that holds a slot. -/
theorem Owned.run
    {registry : Registry}
    {id : String}
    {job : Job}
    (owned : registry.Owned id job)
    (hook : EvictionHook)
    {call : RegistryCall}
    (elsewhere : call.id? ≠ some id) :
    (call.run hook registry).Owned id job where
  wellKeyed := owned.wellKeyed.run hook call
  holds := holdsSlot_run_of_ne hook elsewhere owned.holds
  found := by
    rcases find?_run_of_ne owned.wellKeyed hook elsewhere with same | gone
    · rw [same]
      exact owned.found
    · have tracked :=
        isSome_find?_run hook call owned.holds
          (Option.isSome_of_eq_some owned.found)
      simp [gone] at tracked

theorem Owned.play
    {registry : Registry}
    {id : String}
    {job : Job}
    (owned : registry.Owned id job)
    (hook : EvictionHook)
    {calls : List RegistryCall}
    (elsewhere : ∀ call ∈ calls, call.id? ≠ some id) :
    (registry.play hook calls).Owned id job := by
  induction calls generalizing registry with
  | nil => exact owned
  | cons call rest inductionHypothesis =>
      exact inductionHypothesis
        (owned.run hook (elsewhere call List.mem_cons_self))
        (fun later member => elsewhere later (List.mem_cons_of_mem call member))

/-- What a job tells is written into its record, and tells of no failure if
the hook causes none. -/
theorem Owned.tell
    {registry : Registry}
    {id : String}
    {job changed : Job}
    (owned : registry.Owned id job)
    {status : JobStatus}
    {progress : Json}
    {fields : Fields}
    (checked : checkFields fields = .ok ())
    (heeded : job.ignores status = false)
    (updated : job.updated status progress fields = (.ok (), changed))
    (now later : Binary64)
    (hook : EvictionHook) :
    let change := registry.tell id status.name progress fields now later hook
    change.registry.Owned id { changed with touched := now } ∧
      ((∀ other, hook.SparesCaller other) →
        change.result = .ok { changed with touched := now }) := by
  let written : Job := { changed with touched := now }
  have sameId : written.id = id := by
    have kept := Job.updated_id job status progress fields
    rw [updated] at kept
    exact kept.trans (owned.wellKeyed.id_of_find? owned.found)
  have shape :
      registry.tell id status.name progress fields now later hook =
        (registry.put written).dropStaleFor written later hook := by
    have heeds :
        registry.Heeds id status.name fields now status job fields :=
      ⟨checked, JobStatus.find?_name status, .known owned.found heeded⟩
    rw [heeds.tell_eq]
    simp [update, updated, written]
  have swept := dropStale_swept (registry.put written) later hook
  have holds : (registry.put written).holdsSlot id = true := owned.holds
  have found : (registry.put written).find? id = some written := by
    rw [← sameId]
    exact find?_put_self registry written
  intro change
  simp only [change, shape]
  refine ⟨⟨?_, ?_, ?_⟩, ?_⟩
  · exact swept.wellKeyed (owned.wellKeyed.put written)
  · simpa [holdsSlot, dropStaleFor, swept.slots] using holds
  · exact (swept.held id holds).trans found
  · intro harmless
    have finished :=
      dropStale_ok
        (fun entry _ => harmless entry.2 :
          ∀ entry ∈ (registry.put written).jobs, hook.SparesCaller entry.2)
        later
    simp [dropStaleFor, finished, Except.map, written]

/-- A job that has told something keeps its slot, and its record is as it was or
updated. -/
theorem Owned.tell_cases
    {registry : Registry}
    {id : String}
    {job : Job}
    (owned : registry.Owned id job)
    (status : JobStatus)
    (progress : Option Int)
    (fields : Fields)
    (now later : Binary64)
    (hook : EvictionHook) :
    ∃ changed,
      (registry.tell id status.name (.ofInteger? progress) fields now later
        hook).registry.Owned id changed ∧
      (changed = job ∨
        job.ignores status = false ∧
        ∃ touched,
          changed =
            { (job.updated status (.ofInteger? progress) fields).2 with
              touched }) := by
  let call : RegistryCall :=
    .tell id status.name progress fields now later
  have tracked : ((call.run hook registry).find? id).isSome :=
    isSome_find?_run hook call owned.holds
      (Option.isSome_of_eq_some owned.found)
  obtain ⟨changed, found⟩ := Option.isSome_iff_exists.mp tracked
  have holders :=
    tell_sameHolders registry id status.name (.ofInteger? progress) fields now
      later hook
  have holds : (call.run hook registry).holdsSlot id = true := by
    have sameSlots : (call.run hook registry).slots = registry.slots :=
      holders.slots
    unfold holdsSlot
    rw [sameSlots]
    exact owned.holds
  refine ⟨changed, ⟨owned.wellKeyed.run hook call, holds, found⟩, ?_⟩
  cases run_origin owned.wellKeyed found with
  | kept foundBefore =>
      exact Or.inl (Option.some.inj (foundBefore.symm.trans owned.found))
  | entered replaces =>
      obtain ⟨⟨project, _, _, isEnroll⟩, _⟩ := replaces
      simp only [call, reduceCtorEq] at isEnroll
  | updated isTell named updates =>
      simp only [call, RegistryCall.tell.injEq] at isTell
      obtain ⟨_, rfl, rfl, rfl, rfl, rfl⟩ := isTell
      have sameStatus :=
        Option.some.inj (named.symm.trans (JobStatus.find?_name status))
      subst sameStatus
      cases updates with
      | known foundBefore heeded =>
          have same :=
            Option.some.inj (foundBefore.symm.trans owned.found)
          subst same
          exact Or.inr ⟨heeded, _, rfl⟩
      | unknown absent =>
          rw [owned.found] at absent
          cases absent

/-- A job that is taken in holds a slot, with a fresh record. -/
theorem Owned.of_enroll
    {registry : Registry}
    (wellKeyed : registry.WellKeyed)
    {id : String}
    {project : Json}
    {now later : Binary64}
    {hook : EvictionHook}
    {queued : Job}
    (taken : (registry.enroll id project now later hook).result = .ok queued) :
    queued = fresh id project now ∧
      (registry.enroll id project now later hook).registry.Owned id
        queued := by
  rcases enroll_cases registry id project now later hook with
    ⟨_, error, refused⟩ | ⟨_, shape⟩
  · rw [refused] at taken
    cases taken
  · have swept :=
      dropStale_swept (registry.entered id project now) later hook
    have isFresh : queued = fresh id project now := by
      rw [shape] at taken
      simp only [dropStaleFor] at taken
      cases result :
          ((registry.entered id project now).dropStale later hook).result with
      | error failure =>
          rw [result] at taken
          cases taken
      | ok _ =>
          rw [result] at taken
          cases taken
          rfl
    have holds := entered_holdsSlot registry id project now
    refine ⟨isFresh, ?_⟩
    rw [shape, isFresh]
    refine ⟨swept.wellKeyed (wellKeyed.entered id project now), ?_, ?_⟩
    · simp only [holdsSlot, dropStaleFor, swept.slots]
      exact holds
    · exact (swept.held id holds).trans
        (find?_entered_self registry id project now)

theorem Owned.startTask
    {registry : Registry}
    {id : String}
    {job : Job}
    (owned : registry.Owned id job) :
    (registry.startTask id).Owned id job where
  wellKeyed := ⟨owned.wellKeyed.idsNodup, owned.wellKeyed.keyed⟩
  holds := owned.holds
  found := owned.found

end Registry

end Montage
