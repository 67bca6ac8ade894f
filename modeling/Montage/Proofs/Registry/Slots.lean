import Mathlib.Data.List.Nodup
import Montage.Proofs.Registry.Calls
import Montage.Scenario.World

namespace Montage

/-!
# Slots and the runs that hold them

A job that is taken in gets a run of its own, and the slot goes back when that
run ends. Submissions, told statuses, endings and sweeps may come in any order.
The slots never exceed the limit, each live run holds the slot of its id, and
no slot is held otherwise as long as the hook can cope with the outputs that are
told.
-/

namespace EvictionHook

/-- A hook copes with outputs of a kind, to which having none belongs. -/
structure Suits
    (hook : EvictionHook)
    (allowed : Json → Prop) :
    Prop where
  absent : allowed .null
  spares : ∀ job : Job, allowed job.outputPath → hook.SparesCaller job

end EvictionHook

/-- Nothing, or the name of a file that a disk can hold. -/
def NamesUsableFile (output : Json) : Prop :=
  output = .null ∨
    ∃ name, output = .text name ∧ (Path.ofText name).isUsable = true

/-- Removing the output file cannot fail on outputs with usable names. -/
theorem removesOutput_suits : removesOutput.Suits NamesUsableFile where
  absent := Or.inl rfl
  spares := by
    intro job allowed failure raised
    rcases allowed with absent | ⟨name, named, usable⟩
    · simp [removesOutput, Job.outputFile?, absent, Json.text?, nonempty?,
        Json.isGiven] at raised
    · by_cases empty : name.isEmpty = true
      · simp [removesOutput, Job.outputFile?, named, Json.text?, nonempty?,
          Json.isGiven, Option.filter, empty] at raised
      · simp [removesOutput, Job.outputFile?, named, Json.text?, nonempty?,
          Option.filter, empty, Path.refusal?, usable] at raised

/-- Every output among fields is of a kind. -/
def OutputsTold
    (allowed : Json → Prop)
    (fields : Fields) :
    Prop :=
  ∀ value, ("output_path", value) ∈ fields → allowed value

namespace Job

/-- Results leave a record with an output of a kind if only such are told. -/
theorem setResults_outputPath
    {allowed : Json → Prop}
    {job : Job}
    {fields : Fields}
    (before : allowed job.outputPath)
    (told : OutputsTold allowed fields) :
    allowed (job.setResults fields).2.outputPath := by
  induction fields generalizing job with
  | nil => exact before
  | cons field rest inductionHypothesis =>
      obtain ⟨name, value⟩ := field
      have later : OutputsTold allowed rest :=
        fun value member => told value (List.mem_cons_of_mem _ member)
      simp only [setResults]
      split
      · rename_i changed set
        refine inductionHypothesis ?_ later
        unfold setResult at set
        split at set
        · cases set
          exact before
        · split at set
          · rename_i isOutput
            cases set
            exact told value (isOutput ▸ List.mem_cons_self)
          · split at set
            · cases set
              exact before
            · cases set
      · exact before

theorem updated_outputPath
    {allowed : Json → Prop}
    {job : Job}
    {fields : Fields}
    (before : allowed job.outputPath)
    (told : OutputsTold allowed fields)
    (status : JobStatus)
    (progress : Json) :
    allowed (job.updated status progress fields).2.outputPath := by
  have kept :
      (job.moveTo status progress).2.outputPath = job.outputPath := by
    unfold moveTo
    cases job.progressAfter status progress <;> rfl
  unfold updated
  rcases shape : job.moveTo status progress with ⟨outcome, moved⟩
  rw [shape] at kept
  cases outcome with
  | error failure => exact kept ▸ before
  | ok done => exact setResults_outputPath (kept ▸ before) told

end Job

namespace Registry

/-- The outputs of all records are of a kind. -/
def Outputs
    (allowed : Json → Prop)
    (registry : Registry) :
    Prop :=
  ∀ id job, registry.find? id = some job → allowed job.outputPath

end Registry

namespace RegistryCall

/-- Every output that a call tells is of a kind. -/
def Tells
    (allowed : Json → Prop) :
    RegistryCall → Prop
  | tell _ _ _ fields _ _ => OutputsTold allowed fields
  | _ => True

end RegistryCall

namespace Registry

/-- Calls that tell outputs of a kind leave only such outputs. -/
theorem Outputs.run
    {allowed : Json → Prop}
    (absent : allowed .null)
    {registry : Registry}
    (wellKeyed : registry.WellKeyed)
    (outputs : registry.Outputs allowed)
    (hook : EvictionHook)
    {call : RegistryCall}
    (told : call.Tells allowed) :
    (call.run hook registry).Outputs allowed := by
  intro id job found
  cases run_origin wellKeyed found with
  | kept before => exact outputs id job before
  | entered replaces => exact absent
  | @updated _ status progress fields used _ _ _ base isTell named updates =>
      subst isTell
      have toldUsed : OutputsTold allowed used :=
        fun value member => told value (updates.mem_fields member)
      have base : allowed base.outputPath := by
        cases updates with
        | known before heeded => exact outputs id base before
        | unknown isNew => exact absent
      exact Job.updated_outputPath base toldUsed status (.ofInteger? progress)

theorem Outputs.entered
    {allowed : Json → Prop}
    {registry : Registry}
    (outputs : registry.Outputs allowed)
    (absent : allowed .null)
    (id : String)
    (project : Json)
    (now : Binary64) :
    (registry.entered id project now).Outputs allowed := by
  intro other job found
  by_cases same : other = id
  · subst same
    rw [find?_entered_self, Option.some.injEq] at found
    subst found
    exact absent
  · rw [find?_entered_of_ne registry same] at found
    exact outputs other job found

/-- With a hook that suits the outputs, nothing fails while a job is taken
in. -/
theorem enroll_ok
    {hook : EvictionHook}
    {allowed : Json → Prop}
    (suits : hook.Suits allowed)
    {registry : Registry}
    (wellKeyed : registry.WellKeyed)
    (outputs : registry.Outputs allowed)
    {id : String}
    (admitted : registry.admits id = true)
    (project : Json)
    (now later : Binary64) :
    (registry.enroll id project now later hook).result =
      .ok (fresh id project now) := by
  have entered := outputs.entered suits.absent id project now
  have enteredKeyed := wellKeyed.entered id project now
  have finished :
      ((registry.entered id project now).dropStale later hook).result =
        .ok () := by
    apply dropStale_ok
    intro entry member
    exact suits.spares entry.2
      (entered entry.1 entry.2 (enteredKeyed.find?_eq_some_iff.mpr member))
  rcases enroll_cases registry id project now later hook with
    ⟨refused, _⟩ | ⟨_, taken⟩
  · rw [admitted] at refused
    cases refused
  · rw [taken]
    simp [dropStaleFor, finished, Except.map]

end Registry

/-! ## Traffic -/

/-- A registry in use, and the runs of the jobs that were taken in. -/
structure Traffic where
  registry : Registry
  /-- The runs that have not ended: their numbers and the ids of the jobs. -/
  runs : List (Nat × String) := []
  /-- The number of the next run. -/
  next : Nat := 0

/-- What happens to a registry in use, with the readings of the clock. -/
inductive TrafficEvent
  | submit (id : String) (project : Json) (now later : Binary64)
  | tell
      (id statusName : String)
      (progress : Option Int)
      (fields : Fields)
      (now later : Binary64)
  | finish (run : Nat)
  | sweep (now : Binary64)

/-- Every output that is told by an event is of a kind. -/
def TrafficEvent.Tells
    (allowed : Json → Prop) :
    TrafficEvent → Prop
  | tell _ _ _ fields _ _ => OutputsTold allowed fields
  | _ => True

namespace Traffic

/-- A job that is taken in without failure gets a run. -/
def submit
    (hook : EvictionHook)
    (traffic : Traffic)
    (id : String)
    (project : Json)
    (now later : Binary64) :
    Traffic :=
  let change := traffic.registry.enroll id project now later hook
  match change.result with
  | .error _ => { traffic with registry := change.registry }
  | .ok _ => {
      registry := change.registry.startTask id
      runs := traffic.runs ++ [(traffic.next, id)]
      next := traffic.next + 1 }

/-- A run ends, once. -/
def finish
    (traffic : Traffic)
    (run : Nat) :
    Traffic :=
  match traffic.runs.find? (fun live => live.1 = run) with
  | none => traffic
  | some ended =>
      { traffic with
        registry := traffic.registry.finish ended.2
        runs := traffic.runs.filter fun live => live.1 ≠ run }

/-- The traffic after an event. -/
def step
    (hook : EvictionHook)
    (traffic : Traffic) :
    TrafficEvent → Traffic
  | .submit id project now later =>
      traffic.submit hook id project now later
  | .tell id statusName progress fields now later =>
      { traffic with
        registry :=
          (traffic.registry.tell id statusName (.ofInteger? progress) fields
            now later hook).registry }
  | .finish run => traffic.finish run
  | .sweep now =>
      { traffic with
        registry := (traffic.registry.dropStale now hook).registry }

/-- The traffic after events, the first first. -/
def play
    (hook : EvictionHook)
    (traffic : Traffic)
    (events : List TrafficEvent) :
    Traffic :=
  events.foldl (step hook) traffic

/-! ## What every event preserves -/

/-- Slots stay within the limit, and every live run holds its own. -/
structure Orderly
    (limit : Int)
    (traffic : Traffic) :
    Prop where
  limited : traffic.registry.limit = limit
  wellKeyed : traffic.registry.WellKeyed
  slotsNodup : traffic.registry.slots.Nodup
  bounded : traffic.registry.slots.length ≤ limit.toNat
  tracked :
    ∀ id, traffic.registry.holdsSlot id = true →
      (traffic.registry.find? id).isSome
  numbersNodup : (traffic.runs.map Prod.fst).Nodup
  numbered : ∀ live ∈ traffic.runs, live.1 < traffic.next
  idsNodup : (traffic.runs.map Prod.snd).Nodup
  held : ∀ live ∈ traffic.runs, traffic.registry.holdsSlot live.2 = true
  tasks : traffic.registry.tasks = traffic.runs.map Prod.snd

theorem opened_orderly
    (limit highWater : Int)
    (lifetime : Binary64) :
    Orderly limit { registry := .opened limit highWater lifetime } where
  limited := rfl
  wellKeyed := Registry.opened_wellKeyed limit highWater lifetime
  slotsNodup := List.nodup_nil
  bounded := Nat.zero_le _
  tracked := by
    intro id holds
    cases holds
  numbersNodup := List.nodup_nil
  numbered := by
    intro live member
    cases member
  idsNodup := List.nodup_nil
  held := by
    intro live member
    cases member
  tasks := rfl

/-- A call that moves no slot, on records or none, keeps the order. -/
theorem Orderly.of_sameHolders
    {limit : Int}
    {traffic : Traffic}
    (orderly : traffic.Orderly limit)
    {registry : Registry}
    (same : Registry.SameHolders traffic.registry registry)
    (wellKeyed : registry.WellKeyed)
    (tracked :
      ∀ id, traffic.registry.holdsSlot id = true →
        (registry.find? id).isSome) :
    Orderly limit { traffic with registry } where
  limited := same.limit.trans orderly.limited
  wellKeyed := wellKeyed
  slotsNodup := same.slots ▸ orderly.slotsNodup
  bounded := same.slots ▸ orderly.bounded
  tracked := by
    intro id holds
    apply tracked
    simpa [Registry.holdsSlot, same.slots] using holds
  numbersNodup := orderly.numbersNodup
  numbered := orderly.numbered
  idsNodup := orderly.idsNodup
  held := by
    intro live member
    simpa [Registry.holdsSlot, same.slots] using orderly.held live member
  tasks := same.tasks.trans orderly.tasks

/-- A job that enters takes a slot that was free; a sweep leaves it that. -/
theorem Orderly.enter
    {limit : Int}
    {traffic : Traffic}
    (orderly : traffic.Orderly limit)
    {id : String}
    (admitted : traffic.registry.admits id = true)
    {project : Json}
    {now : Binary64}
    {registry : Registry}
    (swept :
      Registry.Swept (traffic.registry.entered id project now) registry) :
    Orderly limit { traffic with registry } where
  limited := swept.limit.trans orderly.limited
  wellKeyed := swept.wellKeyed (orderly.wellKeyed.entered id project now)
  slotsNodup := by
    have free := Registry.not_holdsSlot_of_admits admitted
    rw [swept.slots]
    simp only [Registry.entered, ← List.concat_eq_append]
    exact orderly.slotsNodup.concat free
  bounded := by
    have below := Registry.slots_lt_of_admits admitted
    rw [orderly.limited] at below
    rw [swept.slots]
    simp only [Registry.entered, List.length_append, List.length_singleton]
    omega
  tracked := by
    intro other holds
    have before :
        (traffic.registry.entered id project now).holdsSlot other = true := by
      simpa [Registry.holdsSlot, swept.slots] using holds
    rw [swept.held other before]
    by_cases same : other = id
    · subst same
      rw [Registry.find?_entered_self]
      rfl
    · rw [Registry.find?_entered_of_ne traffic.registry same]
      apply orderly.tracked
      simpa [Registry.holdsSlot, Registry.entered, same] using before
  numbersNodup := orderly.numbersNodup
  numbered := orderly.numbered
  idsNodup := orderly.idsNodup
  held := by
    intro live member
    have before := orderly.held live member
    simp only [Registry.holdsSlot, List.contains_iff_mem] at before
    simp [Registry.holdsSlot, swept.slots, Registry.entered, before]
  tasks := swept.tasks.trans orderly.tasks

/-- A run is begun for a job that holds a slot and has no run yet. -/
theorem Orderly.begin
    {limit : Int}
    {traffic : Traffic}
    (orderly : traffic.Orderly limit)
    {id : String}
    (holds : traffic.registry.holdsSlot id = true)
    (idle : id ∉ traffic.runs.map Prod.snd) :
    Orderly limit {
      registry := traffic.registry.startTask id
      runs := traffic.runs ++ [(traffic.next, id)]
      next := traffic.next + 1 } where
  limited := orderly.limited
  wellKeyed := ⟨orderly.wellKeyed.idsNodup, orderly.wellKeyed.keyed⟩
  slotsNodup := orderly.slotsNodup
  bounded := orderly.bounded
  tracked := orderly.tracked
  numbersNodup := by
    rw [List.map_append, List.map_cons, List.map_nil,
      ← List.concat_eq_append]
    apply orderly.numbersNodup.concat
    intro member
    obtain ⟨live, isLive, isNext⟩ := List.mem_map.mp member
    have older := orderly.numbered live isLive
    omega
  numbered := by
    intro live member
    rcases List.mem_append.mp member with isOld | isNew
    · exact Nat.lt_succ_of_lt (orderly.numbered live isOld)
    · rw [List.mem_singleton.mp isNew]
      exact Nat.lt_succ_self _
  idsNodup := by
    rw [List.map_append, List.map_cons, List.map_nil,
      ← List.concat_eq_append]
    exact orderly.idsNodup.concat idle
  held := by
    intro live member
    rcases List.mem_append.mp member with isOld | isNew
    · exact orderly.held live isOld
    · rw [List.mem_singleton.mp isNew]
      exact holds
  tasks := by
    simp [Registry.startTask, orderly.tasks]

theorem Orderly.submit
    {limit : Int}
    {traffic : Traffic}
    (orderly : traffic.Orderly limit)
    (hook : EvictionHook)
    (id : String)
    (project : Json)
    (now later : Binary64) :
    (traffic.submit hook id project now later).Orderly limit := by
  rcases Registry.enroll_cases traffic.registry id project now later hook with
    ⟨_, error, refused⟩ | ⟨admitted, taken⟩
  · simpa [Traffic.submit, refused] using orderly
  · have swept :=
      Registry.dropStale_swept (traffic.registry.entered id project now)
        later hook
    have entered := orderly.enter admitted swept
    cases result :
        (traffic.registry.enroll id project now later hook).result with
    | error failure =>
        simp only [Traffic.submit, result]
        rw [taken]
        exact entered
    | ok job =>
        simp only [Traffic.submit, result]
        rw [taken]
        apply entered.begin
        · have holds :=
            Registry.entered_holdsSlot traffic.registry id project now
          simp only [Registry.holdsSlot, swept.slots]
          exact holds
        · intro member
          obtain ⟨live, isLive, isId⟩ := List.mem_map.mp member
          have holds := orderly.held live isLive
          apply Registry.not_holdsSlot_of_admits admitted
          rw [← isId]
          simpa [Registry.holdsSlot] using holds

/-- A run that is found by its number is live, and it is the only one. -/
theorem Orderly.find?_eq_some_iff
    {limit : Int}
    {traffic : Traffic}
    (orderly : traffic.Orderly limit)
    {run : Nat}
    {ended : Nat × String} :
    traffic.runs.find? (fun live => live.1 = run) = some ended ↔
      ended ∈ traffic.runs ∧ ended.1 = run := by
  constructor
  · intro found
    exact ⟨List.mem_of_find?_eq_some found,
      by simpa using List.find?_some found⟩
  · rintro ⟨member, isRun⟩
    cases found : traffic.runs.find? (fun live => live.1 = run) with
    | none =>
        have absent := List.find?_eq_none.mp found ended member
        simp [isRun] at absent
    | some other =>
        have otherMember := List.mem_of_find?_eq_some found
        have otherRun : other.1 = run := by
          simpa using List.find?_some found
        have same : other = ended :=
          List.inj_on_of_nodup_map orderly.numbersNodup otherMember member
            (otherRun.trans isRun.symm)
        rw [same]

/-- Two live runs are one if their numbers or their ids are. -/
theorem Orderly.number_eq_iff
    {limit : Int}
    {traffic : Traffic}
    (orderly : traffic.Orderly limit)
    {first second : Nat × String}
    (isFirst : first ∈ traffic.runs)
    (isSecond : second ∈ traffic.runs) :
    first.1 = second.1 ↔ first.2 = second.2 := by
  constructor
  · intro same
    rw [List.inj_on_of_nodup_map orderly.numbersNodup isFirst isSecond same]
  · intro same
    rw [List.inj_on_of_nodup_map orderly.idsNodup isFirst isSecond same]

/-- Without a run, the ids are those of all runs but its own. -/
theorem Orderly.map_filter_eq_erase
    {limit : Int}
    {traffic : Traffic}
    (orderly : traffic.Orderly limit)
    {ended : Nat × String}
    (isLive : ended ∈ traffic.runs) :
    (traffic.runs.filter fun live => live.1 ≠ ended.1).map Prod.snd =
      (traffic.runs.map Prod.snd).erase ended.2 := by
  rw [orderly.idsNodup.erase_eq_filter, List.filter_map]
  congr 1
  apply List.filter_congr
  intro live member
  have sameRun := orderly.number_eq_iff member isLive
  by_cases same : live.2 = ended.2
  · simp [same, sameRun.mpr same]
  · simp [same, mt sameRun.mp same]

theorem Orderly.finish
    {limit : Int}
    {traffic : Traffic}
    (orderly : traffic.Orderly limit)
    (run : Nat) :
    (traffic.finish run).Orderly limit := by
  unfold Traffic.finish
  cases found : traffic.runs.find? (fun live => live.1 = run) with
  | none => exact orderly
  | some ended =>
      obtain ⟨isLive, isRun⟩ := orderly.find?_eq_some_iff.mp found
      subst isRun
      exact {
        limited := orderly.limited
        wellKeyed := ⟨orderly.wellKeyed.idsNodup, orderly.wellKeyed.keyed⟩
        slotsNodup := orderly.slotsNodup.filter _
        bounded :=
          Nat.le_trans (List.length_filter_le _ _) orderly.bounded
        tracked := by
          intro id holds
          apply orderly.tracked
          simp only [Registry.holdsSlot, List.contains_iff_mem] at holds ⊢
          exact (List.mem_filter.mp holds).1
        numbersNodup :=
          (List.filter_sublist.map Prod.fst).nodup orderly.numbersNodup
        numbered := by
          intro live member
          exact orderly.numbered live (List.mem_filter.mp member).1
        idsNodup :=
          (List.filter_sublist.map Prod.snd).nodup orderly.idsNodup
        held := by
          intro live member
          obtain ⟨wasLive, notEnded⟩ := List.mem_filter.mp member
          have otherId : live.2 ≠ ended.2 := by
            intro same
            have sameRun := (orderly.number_eq_iff wasLive isLive).mpr same
            simp [sameRun] at notEnded
          have holds := orderly.held live wasLive
          simp only [Registry.holdsSlot, List.contains_iff_mem] at holds
          simp [Registry.holdsSlot, Registry.finish, Registry.release, holds,
            otherId]
        tasks := by
          simp only [Registry.finish, Registry.release, orderly.tasks]
          exact (orderly.map_filter_eq_erase isLive).symm }

theorem Orderly.step
    {limit : Int}
    {traffic : Traffic}
    (orderly : traffic.Orderly limit)
    (hook : EvictionHook)
    (event : TrafficEvent) :
    (traffic.step hook event).Orderly limit := by
  cases event with
  | submit id project now later =>
      exact orderly.submit hook id project now later
  | tell id statusName progress fields now later =>
      let call : RegistryCall := .tell id statusName progress fields now later
      exact orderly.of_sameHolders
        (Registry.tell_sameHolders traffic.registry id statusName
          (.ofInteger? progress) fields now later hook)
        (orderly.wellKeyed.run hook call)
        (fun other holds =>
          Registry.isSome_find?_run hook call holds
            (orderly.tracked other holds))
  | finish run => exact orderly.finish run
  | sweep now =>
      have swept := Registry.dropStale_swept traffic.registry now hook
      exact orderly.of_sameHolders swept.sameHolders
        (swept.wellKeyed orderly.wellKeyed)
        (fun other holds =>
          Registry.isSome_find?_run hook (.sweep now) holds
            (orderly.tracked other holds))

theorem Orderly.play
    {limit : Int}
    {traffic : Traffic}
    (orderly : traffic.Orderly limit)
    (hook : EvictionHook)
    (events : List TrafficEvent) :
    (traffic.play hook events).Orderly limit := by
  induction events generalizing traffic with
  | nil => exact orderly
  | cons event rest inductionHypothesis =>
      exact inductionHypothesis (orderly.step hook event)

/-- Every slot is held by a live run, and outputs are of a kind. -/
structure Settled
    (allowed : Json → Prop)
    (traffic : Traffic) :
    Prop where
  owned :
    ∀ id, traffic.registry.holdsSlot id = true →
      id ∈ traffic.runs.map Prod.snd
  outputs : traffic.registry.Outputs allowed

/-- With a hook that suits the outputs, a job that enters gets its run. -/
theorem Settled.submit
    {hook : EvictionHook}
    {allowed : Json → Prop}
    (suits : hook.Suits allowed)
    {limit : Int}
    {traffic : Traffic}
    (orderly : traffic.Orderly limit)
    (settled : traffic.Settled allowed)
    (id : String)
    (project : Json)
    (now later : Binary64) :
    (traffic.submit hook id project now later).Settled allowed := by
  rcases Registry.enroll_cases traffic.registry id project now later hook with
    ⟨_, error, refused⟩ | ⟨admitted, taken⟩
  · simpa [Traffic.submit, refused] using settled
  · have entered :=
      settled.outputs.entered suits.absent id project now
    have swept :=
      Registry.dropStale_swept (traffic.registry.entered id project now)
        later hook
    have result :=
      Registry.enroll_ok suits orderly.wellKeyed settled.outputs admitted
        project now later
    simp only [Traffic.submit, result]
    rw [taken]
    refine ⟨?_, ?_⟩
    · intro other holds
      have before : other ∈ traffic.registry.slots ++ [id] := by
        simp only [Registry.holdsSlot, Registry.startTask,
          Registry.dropStaleFor, swept.slots, List.contains_iff_mem] at holds
        exact holds
      rw [List.map_append]
      rcases List.mem_append.mp before with wasHeld | isNew
      · apply List.mem_append_left
        apply settled.owned
        simpa [Registry.holdsSlot] using wasHeld
      · exact List.mem_append_right _ isNew
    · intro other job found
      exact entered other job (swept.find?_of_find? found)

theorem Settled.step
    {hook : EvictionHook}
    {allowed : Json → Prop}
    (suits : hook.Suits allowed)
    {limit : Int}
    {traffic : Traffic}
    (orderly : traffic.Orderly limit)
    (settled : traffic.Settled allowed)
    {event : TrafficEvent}
    (told : event.Tells allowed) :
    (traffic.step hook event).Settled allowed := by
  cases event with
  | submit id project now later =>
      exact settled.submit suits orderly id project now later
  | tell id statusName progress fields now later =>
      have same :=
        Registry.tell_sameHolders traffic.registry id statusName
          (.ofInteger? progress) fields now later hook
      refine ⟨?_, ?_⟩
      · intro other holds
        apply settled.owned
        simpa [Traffic.step, Registry.holdsSlot, same.slots] using holds
      · have toldToRegistry :
            (RegistryCall.tell id statusName progress fields now later).Tells
              allowed :=
          told
        exact Registry.Outputs.run suits.absent orderly.wellKeyed
          settled.outputs hook toldToRegistry
  | finish run =>
      simp only [Traffic.step, Traffic.finish]
      cases found : traffic.runs.find? (fun live => live.1 = run) with
      | none => exact settled
      | some ended =>
          obtain ⟨isLive, isRun⟩ := orderly.find?_eq_some_iff.mp found
          subst isRun
          refine ⟨?_, settled.outputs⟩
          intro other holds
          have kept : other ∈ traffic.registry.slots ∧ other ≠ ended.2 := by
            simpa [Registry.holdsSlot, Registry.finish, Registry.release] using
              holds
          have owned : other ∈ traffic.runs.map Prod.snd := by
            apply settled.owned
            simpa [Registry.holdsSlot] using kept.1
          have stays :
              other ∈ (traffic.runs.map Prod.snd).erase ended.2 :=
            (List.mem_erase_of_ne kept.2).mpr owned
          rw [← orderly.map_filter_eq_erase isLive] at stays
          exact stays
  | sweep now =>
      have swept := Registry.dropStale_swept traffic.registry now hook
      refine ⟨?_, ?_⟩
      · intro other holds
        apply settled.owned
        simpa [Traffic.step, Registry.holdsSlot, swept.slots] using holds
      · intro other job found
        exact settled.outputs other job (swept.find?_of_find? found)

theorem Settled.play
    {hook : EvictionHook}
    {allowed : Json → Prop}
    (suits : hook.Suits allowed)
    {limit : Int}
    {traffic : Traffic}
    (orderly : traffic.Orderly limit)
    (settled : traffic.Settled allowed)
    {events : List TrafficEvent}
    (told : ∀ event ∈ events, event.Tells allowed) :
    (traffic.play hook events).Settled allowed := by
  induction events generalizing traffic with
  | nil => exact settled
  | cons event rest inductionHypothesis =>
      apply inductionHypothesis (orderly.step hook event)
      · exact settled.step suits orderly (told event List.mem_cons_self)
      · intro later member
        exact told later (List.mem_cons_of_mem event member)

/-- A live run outlasts the end of any other run, and so does its slot. -/
theorem Orderly.live_of_finish
    {limit : Int}
    {traffic : Traffic}
    (orderly : traffic.Orderly limit)
    (hook : EvictionHook)
    {ended other : Nat}
    (different : other ≠ ended)
    {id : String}
    (live : (other, id) ∈ traffic.runs) :
    (other, id) ∈ (traffic.step hook (.finish ended)).runs ∧
      (traffic.step hook (.finish ended)).registry.holdsSlot id = true := by
  have stays : (other, id) ∈ (traffic.step hook (.finish ended)).runs := by
    simp only [Traffic.step, Traffic.finish]
    split
    · exact live
    · exact List.mem_filter.mpr ⟨live, by simpa using different⟩
  exact ⟨stays, (orderly.step hook (.finish ended)).held (other, id) stays⟩

/-- While a run of an id is live, submitting the id again changes nothing. -/
theorem Orderly.submit_of_live
    {limit : Int}
    {traffic : Traffic}
    (orderly : traffic.Orderly limit)
    (hook : EvictionHook)
    {run : Nat}
    {id : String}
    (live : (run, id) ∈ traffic.runs)
    (project : Json)
    (now later : Binary64) :
    traffic.step hook (.submit id project now later) = traffic := by
  have holds := orderly.held (run, id) live
  simp [Traffic.step, Traffic.submit, Registry.enroll, Registry.isInUse, holds]

/--
After all events, whatever their order: the slots keep the limit and are those
of the live runs, of which each id has one at most; a record stands for each
slot; and no live run is touched by another one's end or by its own id coming
again. Slots without a run need a hook that fails on an output that was told.
-/
theorem slots_belong_to_live_runs
    (hook : EvictionHook)
    (limit highWater : Int)
    (lifetime : Binary64)
    (events : List TrafficEvent) :
    let opened : Traffic := { registry := .opened limit highWater lifetime }
    let traffic := opened.play hook events
    (traffic.registry.slots.length ≤ limit.toNat ∧
      traffic.registry.slots.Nodup ∧
      traffic.registry.tasks = traffic.runs.map Prod.snd) ∧
    (∀ run id, (run, id) ∈ traffic.runs →
      traffic.registry.holdsSlot id = true ∧
        (∀ other, (other, id) ∈ traffic.runs → other = run) ∧
        (∀ project now later,
          traffic.step hook (.submit id project now later) = traffic) ∧
        (∀ ended, run ≠ ended →
          (run, id) ∈ (traffic.step hook (.finish ended)).runs ∧
          (traffic.step hook (.finish ended)).registry.holdsSlot id =
            true)) ∧
    (∀ id, traffic.registry.holdsSlot id = true →
      (traffic.registry.find? id).isSome) ∧
    (∀ allowed,
      hook.Suits allowed →
      (∀ event ∈ events, event.Tells allowed) →
      ∀ id, traffic.registry.holdsSlot id = true →
        ∃ run, (run, id) ∈ traffic.runs) := by
  intro opened traffic
  have start : opened.Orderly limit :=
    opened_orderly limit highWater lifetime
  have orderly : traffic.Orderly limit := start.play hook events
  refine ⟨⟨orderly.bounded, orderly.slotsNodup, orderly.tasks⟩, ?_,
    orderly.tracked, ?_⟩
  · intro run id live
    refine ⟨orderly.held (run, id) live, ?_, ?_, ?_⟩
    · intro other otherLive
      exact (orderly.number_eq_iff otherLive live).mpr rfl
    · intro project now later
      exact orderly.submit_of_live hook live project now later
    · intro ended different
      exact orderly.live_of_finish hook different live
  · intro allowed suits told id holds
    have startSettled : opened.Settled allowed := by
      refine ⟨?_, ?_⟩
      · intro other otherHolds
        cases otherHolds
      · intro other job found
        cases found
    have settled : traffic.Settled allowed :=
      startSettled.play suits start told
    obtain ⟨live, isLive, isId⟩ := List.mem_map.mp (settled.owned id holds)
    exact ⟨live.1, isId ▸ isLive⟩

/-- A job that is done and comes again has the slot of its second run. -/
theorem slot_of_job_that_came_again :
    let project : Json := .null
    let output : Fields := [("output_path", .text "/t/a_output.mp4")]
    let opened : Traffic := { registry := .opened 1 5 60 }
    let events : List TrafficEvent := [
      .submit "a" project 0 0,
      .tell "a" "done" none output 1 1,
      .submit "a" project 2 2,
      .finish 0,
      .submit "a" project 3 3]
    let traffic := opened.play removesOutput events
    removesOutput.Suits NamesUsableFile ∧
      (∀ event ∈ events, event.Tells NamesUsableFile) ∧
      traffic.registry.holdsSlot "a" = true ∧
      traffic.runs = [(1, "a")] ∧
      ∃ run, (run, "a") ∈ traffic.runs := by
  intro project output opened events traffic
  have told : ∀ event ∈ events, event.Tells NamesUsableFile := by
    intro event member
    simp only [events, List.mem_cons, List.not_mem_nil, or_false] at member
    rcases member with rfl | rfl | rfl | rfl | rfl
    · trivial
    · intro value isOutput
      simp only [output, List.mem_singleton, Prod.mk.injEq, true_and]
        at isOutput
      exact Or.inr ⟨"/t/a_output.mp4", isOutput, by decide +kernel⟩
    · trivial
    · trivial
    · trivial
  have holds : traffic.registry.holdsSlot "a" = true := by
    decide +kernel
  have live : traffic.runs = [(1, "a")] := by
    decide +kernel
  refine ⟨removesOutput_suits, told, holds, live, ?_⟩
  exact (slots_belong_to_live_runs removesOutput 1 5 60 events).2.2.2
    NamesUsableFile removesOutput_suits told "a" holds

end Traffic

end Montage
