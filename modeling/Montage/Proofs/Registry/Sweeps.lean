import Montage.Proofs.Number.Bounds
import Montage.Proofs.Registry.Calls

namespace Montage

/-!
# What writes drop

Records are dropped by the writes of a registry only, and only if there are too
many after the write. Then exactly the expired ones of jobs without a slot are
gone, whatever the hook makes of it: it hears of each of them once, and of no
other. The record that was written is not among them.
-/

namespace Registry

/-! ## One sweep -/

/-- A job holds no slot, and its record was not touched for longer than records
are kept. -/
structure IsExpired
    (registry : Registry)
    (now : Binary64)
    (job : Job) :
    Prop where
  idle : job.id ∉ registry.slots
  old : registry.lifetime.less (now - job.touched) = true

theorem isStale_iff
    {registry : Registry}
    {now : Binary64}
    {job : Job} :
    registry.isStale now job = true ↔ registry.IsExpired now job := by
  simp only [isStale, holdsSlot, Bool.and_eq_true, Bool.not_eq_true',
    List.contains_eq_mem, decide_eq_false_iff_not]
  constructor
  · rintro ⟨idle, old⟩
    exact ⟨idle, old⟩
  · rintro ⟨idle, old⟩
    exact ⟨idle, old⟩

/-- Expired records are those that a sweep would drop. -/
theorem WellKeyed.mem_stale_iff
    {registry : Registry}
    (wellKeyed : registry.WellKeyed)
    {now : Binary64}
    {job : Job} :
    job ∈ registry.stale now ↔
      registry.find? job.id = some job ∧ registry.IsExpired now job := by
  rw [stale, List.mem_filter, isStale_iff, wellKeyed.find?_eq_some_iff]
  refine and_congr_left fun _ => ?_
  constructor
  · intro member
    obtain ⟨entry, tracked, rfl⟩ := List.mem_map.mp member
    rwa [wellKeyed.keyed entry tracked]
  · intro tracked
    exact List.mem_map.mpr ⟨_, tracked, rfl⟩

/--
What a sweep makes of a registry. As long as the records are not too many it
drops none. Otherwise exactly the expired ones are gone, and it tells of each of
them once; all others stay as they are, in their order.
-/
structure SweepsAt
    {α : Type}
    (before : Registry)
    (now : Binary64)
    (change : Change α) :
    Prop where
  few :
    before.jobs.length ≤ before.highWater →
      change.registry = before ∧ change.evicted = []
  kept :
    before.highWater < before.jobs.length →
      ∀ id job,
        change.registry.find? id = some job ↔
          before.find? id = some job ∧ ¬ before.IsExpired now job
  told :
    before.highWater < before.jobs.length →
      ∀ job,
        job ∈ change.evicted ↔
          before.find? job.id = some job ∧ before.IsExpired now job
  once : (change.evicted.map Job.id).Nodup
  order : change.registry.jobs.Sublist before.jobs
  others :
    change.registry = { before with jobs := change.registry.jobs }

theorem WellKeyed.stale_nodup
    {registry : Registry}
    (wellKeyed : registry.WellKeyed)
    (now : Binary64) :
    ((registry.stale now).map Job.id).Nodup := by
  have sameIds :
      (registry.jobs.map Prod.snd).map Job.id =
        registry.jobs.map Prod.fst := by
    rw [List.map_map]
    exact List.map_congr_left wellKeyed.keyed
  have fewer :
      ((registry.stale now).map Job.id).Sublist
        ((registry.jobs.map Prod.snd).map Job.id) :=
    List.filter_sublist.map Job.id
  rw [sameIds] at fewer
  exact fewer.nodup wellKeyed.idsNodup

/-- A record stays exactly if it is not the expired one of its id. -/
theorem WellKeyed.find?_filter_stale
    {registry : Registry}
    (wellKeyed : registry.WellKeyed)
    {now : Binary64}
    {id : String}
    {job : Job} :
    getField? id
        (registry.jobs.filter fun entry =>
          entry.1 ∉ (registry.stale now).map Job.id) = some job ↔
      registry.find? id = some job ∧ ¬ registry.IsExpired now job := by
  let kept := registry.jobs.filter fun entry =>
    entry.1 ∉ (registry.stale now).map Job.id
  have nodup : (kept.map Prod.fst).Nodup :=
    (List.filter_sublist.map Prod.fst).nodup wellKeyed.idsNodup
  have member : getField? id kept = some job ↔ (id, job) ∈ kept :=
    ⟨mem_of_getField?, getField?_of_mem nodup⟩
  rw [member, List.mem_filter, decide_eq_true_eq,
    wellKeyed.find?_eq_some_iff]
  refine and_congr_right fun tracked => not_congr ?_
  have sameId : job.id = id := wellKeyed.keyed (id, job) tracked
  have found : registry.find? id = some job :=
    wellKeyed.find?_eq_some_iff.mpr tracked
  constructor
  · intro dropped
    obtain ⟨other, isStale, otherId⟩ := List.mem_map.mp dropped
    obtain ⟨otherFound, expired⟩ := wellKeyed.mem_stale_iff.mp isStale
    rw [otherId, found] at otherFound
    cases otherFound
    exact expired
  · intro expired
    refine List.mem_map.mpr ⟨job, ?_, sameId⟩
    exact wellKeyed.mem_stale_iff.mpr ⟨sameId ▸ found, expired⟩

theorem WellKeyed.dropStaleFor_sweepsAt
    {α : Type}
    {registry : Registry}
    (wellKeyed : registry.WellKeyed)
    {hook : EvictionHook}
    (harmless : ∀ job, hook.SparesCaller job)
    (value : α)
    (now : Binary64) :
    let change := registry.dropStaleFor value now hook
    change.result = .ok value ∧ registry.SweepsAt now change := by
  intro change
  by_cases few : registry.jobs.length ≤ registry.highWater
  · have unchanged :
        change = { result := .ok value, evicted := [], registry } := by
      simp only [change, dropStaleFor, dropStale, if_pos few]
      rfl
    rw [unchanged]
    refine ⟨rfl, fun _ => ⟨rfl, rfl⟩, ?_, ?_, .nil, .refl _, rfl⟩
    · intro many
      exact absurd few (Int.not_le.mpr many)
    · intro many
      exact absurd few (Int.not_le.mpr many)
  · have swept :
        change = {
          result := .ok value
          evicted := registry.stale now
          registry := {
            registry with
            jobs := registry.jobs.filter fun entry =>
              entry.1 ∉ (registry.stale now).map Job.id } } := by
      simp only [change, dropStaleFor, dropStale, if_neg few]
      rw [evict_eq fun job _ => harmless job]
      rfl
    rw [swept]
    refine ⟨rfl, ?_, ?_, ?_, wellKeyed.stale_nodup now,
      List.filter_sublist, rfl⟩
    · intro isFew
      exact absurd isFew few
    · intro _ id job
      exact wellKeyed.find?_filter_stale
    · intro _ job
      exact wellKeyed.mem_stale_iff

/-- A sweep leaves a record that is not expired. -/
theorem SweepsAt.find?_of_not_expired
    {α : Type}
    {before : Registry}
    {now : Binary64}
    {change : Change α}
    (sweeps : before.SweepsAt now change)
    {id : String}
    {job : Job}
    (found : before.find? id = some job)
    (young : ¬ before.IsExpired now job) :
    change.registry.find? id = some job := by
  by_cases few : before.jobs.length ≤ before.highWater
  · rw [(sweeps.few few).1]
    exact found
  · exact (sweeps.kept (Int.not_le.mp few) id job).mpr ⟨found, young⟩

/-! ## Calls that write a record -/

/-- The lifetime of records is set once for all. -/
theorem run_lifetime
    (hook : EvictionHook)
    (registry : Registry)
    (call : RegistryCall) :
    (call.run hook registry).lifetime = registry.lifetime := by
  cases call with
  | enroll id project now later =>
      rcases enroll_cases registry id project now later hook with
        ⟨_, error, refused⟩ | ⟨_, taken⟩
      · simp only [RegistryCall.run, refused]
      · simp only [RegistryCall.run, taken, dropStaleFor]
        exact (dropStale_swept _ later hook).lifetime
  | tell id statusName progress fields now later =>
      rcases tell_cases registry id statusName (.ofInteger? progress) fields
          now later hook with
        ⟨_, unchanged⟩ | ⟨status, base, used, _, _, shape⟩
      · simp only [RegistryCall.run, unchanged]
      · obtain ⟨touched, swept⟩ :=
          update_swept registry base status (.ofInteger? progress) used
            now later hook
        simp only [RegistryCall.run, shape]
        exact swept.lifetime
  | release id => rfl
  | startTask id => rfl
  | finish id => rfl
  | sweep now => exact (dropStale_swept registry now hook).lifetime

theorem play_lifetime
    (hook : EvictionHook)
    (registry : Registry)
    (calls : List RegistryCall) :
    (registry.play hook calls).lifetime = registry.lifetime := by
  induction calls generalizing registry with
  | nil => rfl
  | cons call rest inductionHypothesis =>
      exact (inductionHypothesis (call.run hook registry)).trans
        (run_lifetime hook registry call)

/-- A told status is applied, and this is the record that it writes. -/
inductive Applies
    (registry : Registry)
    (id statusName : String)
    (progress : Json)
    (fields : Fields)
    (now : Binary64) :
    Job → Prop
  | intro
      {status : JobStatus}
      {base changed : Job}
      {used : Fields}
      (heeds : registry.Heeds id statusName fields now status base used)
      (updated : base.updated status progress used = (.ok (), changed)) :
      Applies registry id statusName progress fields now
        { changed with touched := now }

theorem Applies.id_eq
    {registry : Registry}
    (wellKeyed : registry.WellKeyed)
    {id statusName : String}
    {progress : Json}
    {fields : Fields}
    {now : Binary64}
    {job : Job}
    (applies : registry.Applies id statusName progress fields now job) :
    job.id = id := by
  cases applies with
  | @intro status base changed used heeds updated =>
      have kept := Job.updated_id base status progress used
      rw [updated] at kept
      exact kept.trans (heeds.updates.id_eq wellKeyed)

theorem Applies.touched_eq
    {registry : Registry}
    {id statusName : String}
    {progress : Json}
    {fields : Fields}
    {now : Binary64}
    {job : Job}
    (applies : registry.Applies id statusName progress fields now job) :
    job.touched = now := by
  cases applies
  rfl

theorem Applies.tell_eq
    {registry : Registry}
    {id statusName : String}
    {progress : Json}
    {fields : Fields}
    {now : Binary64}
    {job : Job}
    (applies : registry.Applies id statusName progress fields now job)
    (later : Binary64)
    (hook : EvictionHook) :
    registry.tell id statusName progress fields now later hook =
      (registry.put job).dropStaleFor job later hook := by
  cases applies with
  | intro heeds updated =>
      rw [heeds.tell_eq, update, updated]

/-- A told status that is not applied drops no record. -/
theorem tell_of_not_applies
    {registry : Registry}
    {id statusName : String}
    {progress : Json}
    {fields : Fields}
    {now : Binary64}
    (rejects :
      ∀ job, ¬ registry.Applies id statusName progress fields now job)
    (later : Binary64)
    (hook : EvictionHook) :
    let change := registry.tell id statusName progress fields now later hook
    change.evicted = [] ∧
      ∀ other,
        (registry.find? other).isSome →
        (change.registry.find? other).isSome := by
  have course :=
    tell_course registry id statusName progress fields now later hook
  generalize registry.tell id statusName progress fields now later hook =
    change at course ⊢
  cases course with
  | repeated unchecked => exact ⟨rfl, fun _ tracked => tracked⟩
  | nameless checked unknown => exact ⟨rfl, fun _ tracked => tracked⟩
  | ignored checked named found ignored =>
      exact ⟨rfl, fun _ tracked => tracked⟩
  | @heeded status base used heeds =>
      rcases updated : base.updated status progress used with
        ⟨outcome, changed⟩
      cases outcome with
      | ok done => exact absurd (Applies.intro heeds updated) (rejects _)
      | error failure =>
          simp only [update, updated, true_and]
          exact fun _ tracked => isSome_find?_put tracked changed

/-- A call writes a record, or is a sweep on its own. -/
def Writes
    (registry : Registry) :
    RegistryCall → Prop
  | .enroll id _ _ _ => registry.admits id = true
  | .tell id statusName progress fields now _ =>
      ∃ job,
        registry.Applies id statusName (.ofInteger? progress) fields now job
  | .sweep _ => True
  | _ => False

theorem isSome_find?_of_not_writes
    {registry : Registry}
    {call : RegistryCall}
    (idle : ¬ registry.Writes call)
    (hook : EvictionHook)
    {id : String}
    (tracked : (registry.find? id).isSome) :
    ((call.run hook registry).find? id).isSome := by
  cases call with
  | enroll asked project now later =>
      rcases enroll_cases registry asked project now later hook with
        ⟨_, error, refused⟩ | ⟨admitted, _⟩
      · simpa only [RegistryCall.run, refused] using tracked
      · exact absurd admitted idle
  | tell asked statusName progress fields now later =>
      have rejects :
          ∀ job,
            ¬ registry.Applies asked statusName (.ofInteger? progress) fields
                now job :=
        fun job applies => idle ⟨job, applies⟩
      exact (tell_of_not_applies rejects later hook).2 id tracked
  | release asked => exact tracked
  | startTask asked => exact tracked
  | finish asked => exact tracked
  | sweep now => exact absurd trivial idle

/-- What the calls that follow a registry drop, if the clock is read once. -/
structure DropsOnlyExpired
    (before : Registry)
    (hook : EvictionHook) :
    Prop where
  /-- To take a job in is a sweep of what is then tracked, and the record of the
  job stays. -/
  enrolled :
    ∀ id project now,
      before.admits id = true →
      let change := before.enroll id project now now hook
      let job := fresh id project now
      change.result = .ok job ∧
        (before.entered id project now).SweepsAt now change ∧
        change.registry.find? id = some job
  /-- A job that is not taken in leaves everything. -/
  refused :
    ∀ id project now later otherHook,
      before.admits id = false →
      let change := before.enroll id project now later otherHook
      (∃ error, change.result = .error (.server error)) ∧
        change.evicted = [] ∧
        change.registry = before
  /-- To tell a status that is applied is a sweep of what is then tracked, and
  the record that it writes stays. -/
  applied :
    ∀ id statusName progress fields now job,
      before.Applies id statusName progress fields now job →
      let change := before.tell id statusName progress fields now now hook
      change.result = .ok job ∧
        (before.put job).SweepsAt now change ∧
        change.registry.find? id = some job
  /-- A status that is not applied tells the hook of no record. -/
  unapplied :
    ∀ id statusName progress fields now later otherHook,
      (∀ job, ¬ before.Applies id statusName progress fields now job) →
      (before.tell id statusName progress fields now later
        otherHook).evicted = []
  /-- No call drops a record but those that write one. -/
  idle :
    ∀ (call : RegistryCall) (otherHook : EvictionHook),
      ¬ before.Writes call →
      ∀ id,
        (before.find? id).isSome →
        ((call.run otherHook before).find? id).isSome

/--
From every registry that calls have led to, with one reading of the clock and a
hook that fails as the system does or not at all: a write drops exactly the
expired records if there are too many after it, and the hook hears of each of
them once and of no other. The record that was written stays, and no other call
drops a record.
-/
theorem writes_drop_exactly_the_expired
    {hook : EvictionHook}
    (harmless : ∀ job, hook.SparesCaller job)
    {lifetime : Binary64}
    (nonnegative : Binary64.atMost 0 lifetime = true)
    (limit highWater : Int)
    (pastHook : EvictionHook)
    (calls : List RegistryCall) :
    ((opened limit highWater lifetime).play pastHook calls).DropsOnlyExpired
      hook := by
  generalize isBefore :
    (opened limit highWater lifetime).play pastHook calls = before
  have wellKeyed : before.WellKeyed := by
    rw [← isBefore]
    exact (opened_wellKeyed limit highWater lifetime).play pastHook calls
  have young (now : Binary64) :
      before.lifetime.less (now - now) = false := by
    rw [← isBefore, play_lifetime]
    exact Binary64.less_sub_self nonnegative now
  refine {
    enrolled := ?_
    refused := ?_
    applied := ?_
    unapplied := ?_
    idle := fun call otherHook isIdle id tracked =>
      isSome_find?_of_not_writes isIdle otherHook tracked }
  · intro id project now admitted
    rcases enroll_cases before id project now now hook with
      ⟨refuses, _⟩ | ⟨_, taken⟩
    · rw [admitted] at refuses
      cases refuses
    · have swept :=
        (wellKeyed.entered id project now).dropStaleFor_sweepsAt harmless
          (fresh id project now) now
      simp only [taken]
      refine ⟨swept.1, swept.2, swept.2.find?_of_not_expired
        (find?_entered_self before id project now) ?_⟩
      intro expired
      exact absurd expired.old (Bool.eq_false_iff.mp (young now))
  · intro id project now later otherHook refuses
    rcases enroll_cases before id project now later otherHook with
      ⟨_, error, refused⟩ | ⟨admitted, _⟩
    · simp only [refused]
      exact ⟨⟨error, rfl⟩, trivial, trivial⟩
    · rw [admitted] at refuses
      cases refuses
  · intro id statusName progress fields now job applies
    have swept :=
      (wellKeyed.put job).dropStaleFor_sweepsAt harmless job now
    have found : (before.put job).find? id = some job := by
      rw [← applies.id_eq wellKeyed]
      exact find?_put_self before job
    simp only [applies.tell_eq now hook]
    refine ⟨swept.1, swept.2, swept.2.find?_of_not_expired found ?_⟩
    intro expired
    have old := expired.old
    rw [applies.touched_eq] at old
    exact absurd old (Bool.eq_false_iff.mp (young now))
  · intro id statusName progress fields now later otherHook rejects
    exact (tell_of_not_applies rejects later otherHook).1

/-- Two jobs end and give their slots back. -/
def twoEndedJobs : List RegistryCall := [
  .enroll "a" .null 0 0,
  .tell "a" "done" none [] 1 1,
  .release "a",
  .enroll "b" .null 2 2,
  .tell "b" "error" none [] 3 3,
  .release "b"]

/-- A hook that fails for the record of one id. -/
def failsFor (id : String) : EvictionHook := fun job =>
  if job.id = id then some (.reported .system "device is busy") else none

/-- The hook fails for the first of two expired records, and hears of both. -/
theorem failing_hook_hears_of_both :
    (∀ job, (failsFor "a").SparesCaller job) ∧
      Binary64.atMost 0 10 = true ∧
      ∃ before change,
        before = (opened 5 1 10).play (fun _ => none) twoEndedJobs ∧
        change = before.enroll "c" .null 50 50 (failsFor "a") ∧
        before.admits "c" = true ∧
        change.result = .ok (fresh "c" .null 50) ∧
        (before.entered "c" .null 50).SweepsAt 50 change ∧
        change.evicted.map Job.id = ["a", "b"] ∧
        change.registry.jobs.map Prod.fst = ["c"] := by
  have harmless : ∀ job, (failsFor "a").SparesCaller job := by
    intro job failure raised
    unfold failsFor at raised
    split at raised
    · cases raised
      rfl
    · cases raised
  have nonnegative : Binary64.atMost 0 10 = true := by decide +kernel
  have admits :
      ((opened 5 1 10).play (fun _ => none) twoEndedJobs).admits "c" =
        true := by
    decide +kernel
  have drops :=
    writes_drop_exactly_the_expired harmless nonnegative 5 1 (fun _ => none)
      twoEndedJobs
  obtain ⟨taken, sweeps, _⟩ := drops.enrolled "c" .null 50 admits
  refine ⟨harmless, nonnegative, _, _, rfl, rfl, admits, taken, sweeps, ?_, ?_⟩
  · decide +kernel
  · decide +kernel

end Registry

end Montage
