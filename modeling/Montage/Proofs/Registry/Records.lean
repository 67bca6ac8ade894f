import Montage.Job.Registry

namespace Montage

/-!
# Records and their ids

A record is found under its own id, and only once. Writing a record and dropping
old ones keep it so; dropping old records leaves every other record as it was,
and never drops the record of a job that holds a slot.
-/

section Fields

variable {α : Type} {name other : String}

/-- A field that is found stands among the fields. -/
theorem mem_of_getField?
    {value : α}
    {fields : List (String × α)}
    (found : getField? name fields = some value) :
    (name, value) ∈ fields := by
  induction fields with
  | nil => simp [getField?] at found
  | cons field rest inductionHypothesis =>
      by_cases same : field.1 = name
      · simp only [getField?, same, ↓reduceIte, Option.some.injEq] at found
        subst found
        subst same
        exact List.mem_cons_self
      · simp only [getField?, same, ↓reduceIte] at found
        exact List.mem_cons_of_mem field (inductionHypothesis found)

/-- A field that stands among fields of different names is found. -/
theorem getField?_of_mem
    {value : α}
    {fields : List (String × α)}
    (different : (fields.map Prod.fst).Nodup)
    (member : (name, value) ∈ fields) :
    getField? name fields = some value := by
  induction fields with
  | nil => simp at member
  | cons field rest inductionHypothesis =>
      simp only [List.map_cons, List.nodup_cons] at different
      rcases List.mem_cons.mp member with isHead | inRest
      · subst isHead
        simp [getField?]
      · have nameInRest : name ∈ rest.map Prod.fst :=
          List.mem_map.mpr ⟨(name, value), inRest, rfl⟩
        have notHead : field.1 ≠ name := by
          intro same
          exact different.1 (same ▸ nameInRest)
        simp only [getField?, notHead, ↓reduceIte]
        exact inductionHypothesis different.2 inRest

/-- Dropping the fields of a name leaves a field of another name. -/
theorem getField?_filter_of_ne
    (different : other ≠ name)
    (fields : List (String × α)) :
    getField? other (fields.filter fun field => field.1 ≠ name) =
      getField? other fields := by
  induction fields with
  | nil => rfl
  | cons field rest inductionHypothesis =>
      by_cases dropped : field.1 = name
      · have notHead : field.1 ≠ other := by
          intro same
          exact different (same.symm.trans dropped)
        simpa [List.filter_cons, dropped, getField?, notHead,
          Ne.symm different] using inductionHypothesis
      · by_cases same : field.1 = other
        · simp [getField?, same, different]
        · simpa [List.filter_cons, dropped, getField?, same] using
            inductionHypothesis

/-- Dropping the fields of a name leaves none of that name. -/
theorem getField?_filter_self
    (fields : List (String × α)) :
    getField? name (fields.filter fun field => field.1 ≠ name) = none := by
  cases found : getField? name (fields.filter fun field => field.1 ≠ name) with
  | none => rfl
  | some value =>
      have member := mem_of_getField? found
      simp at member

/-- Setting a field adds its name at most. -/
theorem mem_setField
    {value : α}
    {fields : List (String × α)}
    {field : String × α}
    (member : field ∈ setField name value fields) :
    field = (name, value) ∨ field ∈ fields := by
  induction fields with
  | nil => simpa [setField] using member
  | cons head rest inductionHypothesis =>
      by_cases same : head.1 = name
      · simp only [setField, same, ↓reduceIte, List.mem_cons] at member
        rcases member with isNew | inRest
        · exact Or.inl isNew
        · exact Or.inr (List.mem_cons_of_mem head inRest)
      · simp only [setField, same, ↓reduceIte, List.mem_cons] at member
        rcases member with isHead | inRest
        · exact Or.inr (isHead ▸ List.mem_cons_self)
        · rcases inductionHypothesis inRest with isNew | inOld
          · exact Or.inl isNew
          · exact Or.inr (List.mem_cons_of_mem head inOld)

/-- Setting a field keeps the names different. -/
theorem setField_nodup
    {value : α}
    {fields : List (String × α)}
    (different : (fields.map Prod.fst).Nodup) :
    ((setField name value fields).map Prod.fst).Nodup := by
  induction fields with
  | nil => simp [setField]
  | cons head rest inductionHypothesis =>
      simp only [List.map_cons, List.nodup_cons] at different
      by_cases same : head.1 = name
      · subst same
        simp only [setField, ↓reduceIte, List.map_cons, List.nodup_cons]
        exact different
      · simp only [setField, same, ↓reduceIte, List.map_cons,
          List.nodup_cons]
        refine ⟨?_, inductionHypothesis different.2⟩
        intro member
        obtain ⟨field, inSet, sameName⟩ := List.mem_map.mp member
        rcases mem_setField inSet with isNew | inRest
        · subst isNew
          exact same sameName.symm
        · exact different.1 (List.mem_map.mpr ⟨field, inRest, sameName⟩)

end Fields

/-- A hook fails as the system does, or not at all, on a record. -/
def EvictionHook.SparesCaller
    (hook : EvictionHook)
    (job : Job) :
    Prop :=
  ∀ failure, hook job = some failure → failure.failureClass = .system

namespace Registry

/-- Every record stands under its own id, and under no other. -/
structure WellKeyed (registry : Registry) : Prop where
  idsNodup : (registry.jobs.map Prod.fst).Nodup
  keyed : ∀ entry ∈ registry.jobs, entry.2.id = entry.1

/-- A record is found under its id exactly if it is tracked. -/
theorem WellKeyed.find?_eq_some_iff
    {registry : Registry}
    (wellKeyed : registry.WellKeyed)
    {id : String}
    {job : Job} :
    registry.find? id = some job ↔ (id, job) ∈ registry.jobs :=
  ⟨mem_of_getField?, getField?_of_mem wellKeyed.idsNodup⟩

/-- A record that is found has the id under which it is found. -/
theorem WellKeyed.id_of_find?
    {registry : Registry}
    (wellKeyed : registry.WellKeyed)
    {id : String}
    {job : Job}
    (found : registry.find? id = some job) :
    job.id = id :=
  wellKeyed.keyed (id, job) (mem_of_getField? found)

/-! ## Writing a record -/

theorem find?_put_self
    (registry : Registry)
    (job : Job) :
    (registry.put job).find? job.id = some job :=
  getField?_setField_self job.id job registry.jobs

theorem find?_put_of_ne
    (registry : Registry)
    (job : Job)
    {id : String}
    (different : id ≠ job.id) :
    (registry.put job).find? id = registry.find? id :=
  getField?_setField_of_ne different job registry.jobs

theorem WellKeyed.put
    {registry : Registry}
    (wellKeyed : registry.WellKeyed)
    (job : Job) :
    (registry.put job).WellKeyed where
  idsNodup :=
    setField_nodup wellKeyed.idsNodup
  keyed := by
    intro entry member
    rcases mem_setField member with isNew | wasThere
    · subst isNew
      rfl
    · exact wellKeyed.keyed entry wasThere

/-! ## Dropping records -/

theorem find?_forget_of_ne
    (registry : Registry)
    {id other : String}
    (different : other ≠ id) :
    (registry.forget id).find? other = registry.find? other :=
  getField?_filter_of_ne different registry.jobs

theorem find?_forget_self
    (registry : Registry)
    (id : String) :
    (registry.forget id).find? id = none :=
  getField?_filter_self registry.jobs

theorem WellKeyed.forget
    {registry : Registry}
    (wellKeyed : registry.WellKeyed)
    (id : String) :
    (registry.forget id).WellKeyed where
  idsNodup :=
    (List.filter_sublist.map Prod.fst).nodup wellKeyed.idsNodup
  keyed := by
    intro entry member
    exact wellKeyed.keyed entry (List.mem_filter.mp member).1

/--
What dropping records leaves: limits, slots and tasks are untouched, and each
record either stays as it is or is gone.
-/
structure Remains (before after : Registry) : Prop where
  limit : after.limit = before.limit
  highWater : after.highWater = before.highWater
  lifetime : after.lifetime = before.lifetime
  slots : after.slots = before.slots
  tasks : after.tasks = before.tasks
  records :
    ∀ id, after.find? id = before.find? id ∨ after.find? id = none
  wellKeyed : before.WellKeyed → after.WellKeyed

namespace Remains

theorem refl (registry : Registry) : Remains registry registry where
  limit := rfl
  highWater := rfl
  lifetime := rfl
  slots := rfl
  tasks := rfl
  records := fun _ => Or.inl rfl
  wellKeyed := id

theorem trans
    {first second third : Registry}
    (earlier : Remains first second)
    (later : Remains second third) :
    Remains first third where
  limit := later.limit.trans earlier.limit
  highWater := later.highWater.trans earlier.highWater
  lifetime := later.lifetime.trans earlier.lifetime
  slots := later.slots.trans earlier.slots
  tasks := later.tasks.trans earlier.tasks
  records := by
    intro id
    rcases later.records id with same | gone
    · rw [same]
      exact earlier.records id
    · exact Or.inr gone
  wellKeyed := later.wellKeyed ∘ earlier.wellKeyed

theorem forget
    (registry : Registry)
    (id : String) :
    Remains registry (registry.forget id) where
  limit := rfl
  highWater := rfl
  lifetime := rfl
  slots := rfl
  tasks := rfl
  records := by
    intro other
    by_cases same : other = id
    · subst same
      exact Or.inr (find?_forget_self registry other)
    · exact Or.inl (find?_forget_of_ne registry same)
  wellKeyed := fun wellKeyed => wellKeyed.forget id

/-- A record that is left was there before. -/
theorem find?_of_find?
    {before after : Registry}
    (remains : Remains before after)
    {id : String}
    {job : Job}
    (found : after.find? id = some job) :
    before.find? id = some job := by
  rcases remains.records id with same | gone
  · exact same ▸ found
  · simp [gone] at found

end Remains

theorem evict_remains
    (hook : EvictionHook)
    (jobs : List Job)
    (registry : Registry) :
    Remains registry (evict hook jobs registry).registry := by
  induction jobs generalizing registry with
  | nil => exact .refl registry
  | cons job rest inductionHypothesis =>
      have dropped := Remains.forget registry job.id
      have goesOn :=
        dropped.trans (inductionHypothesis (registry.forget job.id))
      simp only [evict]
      split
      · exact goesOn
      · split
        · exact goesOn
        · exact dropped

/-- Dropping records leaves a record whose id is none of theirs. -/
theorem find?_evict_of_ne
    (hook : EvictionHook)
    {id : String}
    {jobs : List Job}
    (different : ∀ job ∈ jobs, job.id ≠ id)
    (registry : Registry) :
    (evict hook jobs registry).registry.find? id = registry.find? id := by
  induction jobs generalizing registry with
  | nil => rfl
  | cons job rest inductionHypothesis =>
      have dropped :
          (registry.forget job.id).find? id = registry.find? id :=
        find?_forget_of_ne registry (different job List.mem_cons_self).symm
      have goesOn :
          (evict hook rest (registry.forget job.id)).registry.find? id =
            registry.find? id :=
        (inductionHypothesis
          (fun later member =>
            different later (List.mem_cons_of_mem job member))
          (registry.forget job.id)).trans dropped
      simp only [evict]
      split
      · exact goesOn
      · split
        · exact goesOn
        · exact dropped

/-- What a sweep leaves: moreover, the records of jobs that hold a slot. -/
structure Swept (before after : Registry) : Prop extends
    Remains before after where
  held :
    ∀ id, before.holdsSlot id = true → after.find? id = before.find? id

theorem Swept.refl (registry : Registry) : Swept registry registry where
  toRemains := .refl registry
  held := fun _ _ => rfl

/-- The record of a job that holds a slot is not dropped. -/
theorem dropStale_swept
    (registry : Registry)
    (now : Binary64)
    (hook : EvictionHook) :
    Swept registry (registry.dropStale now hook).registry := by
  unfold dropStale
  split
  · exact .refl registry
  · refine ⟨evict_remains hook (registry.stale now) registry, ?_⟩
    intro id holds
    apply find?_evict_of_ne
    intro job member
    have stale : registry.isStale now job = true :=
      (List.mem_filter.mp member).2
    intro same
    simp [isStale, same, holds] at stale

/-- What a change drops was tracked before, holds no slot, and is gone. -/
def DropsIdle
    {α : Type}
    (before : Registry)
    (change : Change α) :
    Prop :=
  ∀ job ∈ change.evicted,
    before.find? job.id = some job ∧
    before.holdsSlot job.id = false ∧
    change.registry.find? job.id = none

/-- What a change leaves and drops that ends with a sweep. -/
structure SweptChange
    {α : Type}
    (before : Registry)
    (change : Change α) :
    Prop extends
    Swept before change.registry where
  dropsIdle : before.WellKeyed → before.DropsIdle change

/-- What is evicted was to be evicted, and is gone. -/
theorem mem_evicted
    (hook : EvictionHook)
    {jobs : List Job}
    (registry : Registry)
    {job : Job}
    (member : job ∈ (evict hook jobs registry).evicted) :
    job ∈ jobs ∧ (evict hook jobs registry).registry.find? job.id = none := by
  induction jobs generalizing registry with
  | nil => cases member
  | cons first rest inductionHypothesis =>
      have gone :
          (evict hook rest (registry.forget first.id)).registry.find?
            first.id = none := by
        have absent := find?_forget_self registry first.id
        rcases (evict_remains hook rest
            (registry.forget first.id)).records first.id with same | gone
        · exact same.trans absent
        · exact gone
      have goesOn
          (isEvicted :
            job ∈
              first ::
                (evict hook rest (registry.forget first.id)).evicted) :
          job ∈ first :: rest ∧
            (evict hook rest (registry.forget first.id)).registry.find?
              job.id = none := by
        rcases List.mem_cons.mp isEvicted with rfl | later
        · exact ⟨List.mem_cons_self, gone⟩
        · obtain ⟨inRest, isGone⟩ := inductionHypothesis _ later
          exact ⟨List.mem_cons_of_mem first inRest, isGone⟩
      simp only [evict] at member ⊢
      split at member
      · exact goesOn member
      · split at member
        · rename_i isSystem
          rw [if_pos isSystem]
          exact goesOn member
        · rename_i notSystem
          rw [if_neg notSystem]
          rw [List.mem_singleton] at member
          rw [member]
          exact ⟨List.mem_cons_self, find?_forget_self registry first.id⟩

theorem dropStale_sweptChange
    (registry : Registry)
    (now : Binary64)
    (hook : EvictionHook) :
    SweptChange registry (registry.dropStale now hook) where
  toSwept := dropStale_swept registry now hook
  dropsIdle := by
    intro wellKeyed job member
    unfold dropStale at member ⊢
    split at member
    · cases member
    · rename_i tooMany
      obtain ⟨inStale, gone⟩ := mem_evicted hook registry member
      obtain ⟨inJobs, stale⟩ := List.mem_filter.mp inStale
      obtain ⟨entry, tracked, rfl⟩ := List.mem_map.mp inJobs
      have found : registry.find? entry.2.id = some entry.2 := by
        rw [wellKeyed.keyed entry tracked]
        exact wellKeyed.find?_eq_some_iff.mpr tracked
      have noSlot : registry.holdsSlot entry.2.id = false := by
        simp only [isStale, Bool.and_eq_true, Bool.not_eq_true'] at stale
        exact stale.1
      rw [if_neg tooMany]
      exact ⟨found, noSlot, gone⟩

theorem dropStaleFor_sweptChange
    {α : Type}
    (value : α)
    (registry : Registry)
    (now : Binary64)
    (hook : EvictionHook) :
    SweptChange registry (registry.dropStaleFor value now hook) where
  toSwept := dropStale_swept registry now hook
  dropsIdle := (dropStale_sweptChange registry now hook).dropsIdle

/-- What was tracked before a change, and is not after it, was dropped. -/
def TellsDropped
    {α : Type}
    (before : Registry)
    (change : Change α) :
    Prop :=
  ∀ id,
    (before.find? id).isSome →
    change.registry.find? id = none →
    ∃ job ∈ change.evicted, job.id = id

theorem evict_tellsDropped
    (hook : EvictionHook)
    (jobs : List Job)
    (registry : Registry) :
    registry.TellsDropped (evict hook jobs registry) := by
  induction jobs generalizing registry with
  | nil =>
      intro id found gone
      rw [show registry.find? id = none from gone] at found
      cases found
  | cons job rest inductionHypothesis =>
      intro id found gone
      by_cases same : job.id = id
      · refine ⟨job, ?_, same⟩
        simp only [evict]
        split
        · exact List.mem_cons_self
        · split
          · exact List.mem_cons_self
          · exact List.mem_singleton_self job
      · have foundThen : ((registry.forget job.id).find? id).isSome := by
          rw [find?_forget_of_ne registry (Ne.symm same)]
          exact found
        have goesOn
            (goneThen :
              (evict hook rest (registry.forget job.id)).registry.find? id =
                none) :
            ∃ dropped ∈
                job :: (evict hook rest (registry.forget job.id)).evicted,
              dropped.id = id := by
          obtain ⟨dropped, member, isDropped⟩ :=
            inductionHypothesis (registry.forget job.id) id foundThen goneThen
          exact ⟨dropped, List.mem_cons_of_mem job member, isDropped⟩
        simp only [evict] at gone ⊢
        split at gone
        · exact goesOn gone
        · split at gone
          · rename_i isSystem
            rw [if_pos isSystem]
            exact goesOn gone
          · rw [show (registry.forget job.id).find? id = none from gone]
              at foundThen
            cases foundThen

theorem dropStaleFor_tellsDropped
    {α : Type}
    (value : α)
    (registry : Registry)
    (now : Binary64)
    (hook : EvictionHook) :
    registry.TellsDropped (registry.dropStaleFor value now hook) := by
  intro id found gone
  unfold dropStaleFor dropStale at gone ⊢
  split at gone
  · rw [show registry.find? id = none from gone] at found
    cases found
  · rename_i tooMany
    rw [if_neg tooMany]
    exact evict_tellsDropped hook (registry.stale now) registry id found gone

/-! ## Sweeps that nothing ends early -/

/-- All records are dropped that are to be, and the hook hears of each. -/
theorem evict_eq
    {hook : EvictionHook}
    {jobs : List Job}
    (harmless : ∀ job ∈ jobs, hook.SparesCaller job)
    (registry : Registry) :
    evict hook jobs registry = {
      result := .ok ()
      evicted := jobs
      registry := {
        registry with
        jobs := registry.jobs.filter fun entry =>
          entry.1 ∉ jobs.map Job.id } } := by
  induction jobs generalizing registry with
  | nil =>
      have all : registry.jobs.filter (fun _ => true) = registry.jobs :=
        List.filter_eq_self.mpr fun _ _ => rfl
      simp [evict, all]
  | cons job rest inductionHypothesis =>
      have goesOn :=
        inductionHypothesis
          (fun later member =>
            harmless later (List.mem_cons_of_mem job member))
          (registry.forget job.id)
      have dropped :
          (registry.forget job.id).jobs.filter
              (fun entry => entry.1 ∉ rest.map Job.id) =
            registry.jobs.filter
              (fun entry => entry.1 ∉ (job :: rest).map Job.id) := by
        simp only [forget, List.filter_filter, List.map_cons, List.mem_cons,
          not_or, Bool.decide_and, Bool.and_comm]
      rw [dropped] at goesOn
      simp only [evict]
      split
      · rw [goesOn]
        rfl
      · rename_i failure raised
        rw [if_pos (harmless job List.mem_cons_self failure raised), goesOn]
        rfl

theorem evict_ok
    {hook : EvictionHook}
    {jobs : List Job}
    (harmless : ∀ job ∈ jobs, hook.SparesCaller job)
    (registry : Registry) :
    (evict hook jobs registry).result = .ok () := by
  rw [evict_eq harmless]

theorem dropStale_ok
    {registry : Registry}
    {hook : EvictionHook}
    (harmless : ∀ entry ∈ registry.jobs, hook.SparesCaller entry.2)
    (now : Binary64) :
    (registry.dropStale now hook).result = .ok () := by
  unfold dropStale
  split
  · rfl
  · apply evict_ok
    intro job member
    obtain ⟨entry, tracked, isJob⟩ :=
      List.mem_map.mp (List.mem_filter.mp member).1
    subst isJob
    exact harmless entry tracked

end Registry

end Montage
