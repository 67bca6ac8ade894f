import Montage.Proofs.Service.Annals
import Montage.Server.State

namespace Montage

/-!
# Soundness of the annals

Annals are sound if every run in them is one that its program can take among all
others, and if what the last run of an id left of its record and its output is
still there, or went with the record. Every step keeps annals sound.
-/

/-- A run that is over left a content in the output of its id. -/
def PastRun.Left
    (server : RenderServer)
    (run : PastRun)
    (id : String)
    (content : Bytes) :
    Prop :=
  run.submission.jobId = id ∧
    run.left.disk.fileAt? (server.outputOf id) = some content

/-- A run has begun as runs do: its job has an id that can be taken, a slot, and
a record that is queued. -/
structure JobRun.Begun
    (server : RenderServer)
    (past : List PastRun)
    (run : JobRun) :
    Prop where
  accepted : isJobId run.submission.jobId = true
  queued :
    ∃ queued,
      run.start.registry.Owned run.submission.jobId queued ∧
      queued.status = .queued ∧
      queued.Running
  /-- An output that the job finds was left by an earlier run. -/
  inherits :
    ∀ content,
      run.start.disk.fileAt? (server.outputOf run.submission.jobId) =
          some content →
      ∃ earlier ∈ past,
        earlier.Left server run.submission.jobId content

/-- A run goes on in order: whatever way it takes from here, its program takes
this way from its start. -/
structure LiveRun.InOrder
    (server : RenderServer)
    (annals : Annals)
    (run : LiveRun) :
    Prop where
  begun : run.Begun server annals.past
  owned :
    ∃ record, annals.scene.registry.Owned run.submission.jobId record
  limited : run.rest.Limited (run.submission.Orders server)
  goesOn :
    let surroundings := Scene.outputSurroundings server run.submission
    ∃ reached,
      surroundings.meanwhile reached annals.scene ∧
      ∀ events outcome final,
        Run surroundings reached run.rest events outcome final →
        Run surroundings run.start (run.submission.run server)
          (run.events ++ events) outcome final

/-- A run that is over is a whole run of its program. -/
structure PastRun.Complete
    (server : RenderServer)
    (past : List PastRun)
    (run : PastRun) :
    Prop where
  begun : run.Begun server past
  whole :
    let surroundings := Scene.outputSurroundings server run.submission
    ∃ outcome final,
      Run surroundings run.start (run.submission.run server) run.events outcome
        final ∧
      surroundings.meanwhile final run.left

namespace Annals

/-- The last run of an id that is over. -/
def lastRun?
    (annals : Annals)
    (id : String) :
    Option PastRun :=
  annals.past.find? fun run => run.submission.jobId = id

/-- Whether a job with an id runs. -/
def Runs
    (annals : Annals)
    (id : String) :
    Prop :=
  ∃ run ∈ annals.live, run.submission.jobId = id

/-- What became of an id that no job has: there is no output if no job had it,
and what the last one left rests. -/
structure Settled
    (server : RenderServer)
    (annals : Annals)
    (id : String) :
    Prop where
  bare :
    annals.lastRun? id = none →
    annals.scene.disk.fileAt? (server.outputOf id) = none
  rests :
    ∀ run,
      annals.lastRun? id = some run →
      Scene.Rests server id run.left annals.scene

/-- Annals are sound. -/
structure Sound
    (server : RenderServer)
    (annals : Annals) :
    Prop where
  wellKeyed : annals.scene.registry.WellKeyed
  telling : annals.scene.TellsOwn server
  different : (annals.live.map (·.submission.jobId)).Nodup
  inOrder : ∀ run ∈ annals.live, run.InOrder server annals
  complete :
    ∀ run earlier,
      run :: earlier <:+ annals.past →
      run.Complete server earlier
  settled :
    ∀ id,
      isJobId id = true →
      ¬ annals.Runs id →
      annals.Settled server id

end Annals

section Surroundings

variable {server : RenderServer} {submission : Submission}
  {first second third : Scene}

theorem Scene.meanwhile_refl
    (server : RenderServer)
    (submission : Submission)
    (scene : Scene) :
    (outputSurroundings server submission).meanwhile scene scene :=
  ⟨⟨[], by simp, rfl⟩, rfl⟩

theorem Scene.meanwhile_trans
    (earlier : (outputSurroundings server submission).meanwhile first second)
    (later : (outputSurroundings server submission).meanwhile second third) :
    (outputSurroundings server submission).meanwhile first third := by
  obtain ⟨⟨calls, elsewhere, played⟩, same⟩ := earlier
  obtain ⟨⟨others, stillElsewhere, playedOn⟩, stillSame⟩ := later
  refine ⟨⟨calls ++ others, ?_, ?_⟩, stillSame.trans same⟩
  · intro call member
    exact (List.mem_append.mp member).elim (elsewhere call)
      (stillElsewhere call)
  · unfold Registry.play at played playedOn ⊢
    rw [List.foldl_append, ← played, playedOn]

end Surroundings

/-! ## What a step leaves of runs -/

section Runs

variable {server : RenderServer} {before after : Annals}
  {past later : List PastRun}

theorem JobRun.Begun.mono
    {run : JobRun}
    (begun : run.Begun server past)
    (kept : past ⊆ later) :
    run.Begun server later where
  accepted := begun.accepted
  queued := begun.queued
  inherits := by
    intro content stands
    obtain ⟨earlier, isPast, left⟩ := begun.inherits content stands
    exact ⟨earlier, kept isPast, left⟩

/-- What other jobs do leaves a run in order. -/
theorem LiveRun.InOrder.left
    {id : String}
    {run : LiveRun}
    (inOrder : run.InOrder server before)
    (different : run.submission.jobId ≠ id)
    (moves : Scene.Moves server id before.scene after.scene)
    (kept : before.past <:+ after.past) :
    run.InOrder server after := by
  obtain ⟨record, owned⟩ := inOrder.owned
  have others :=
    moves.meanwhile inOrder.begun.accepted different owned
  obtain ⟨reached, earlier, goesOn⟩ := inOrder.goesOn
  exact ⟨inOrder.begun.mono kept.subset, ⟨record, owned.meanwhile others.1⟩,
    inOrder.limited, reached, Scene.meanwhile_trans earlier others, goesOn⟩

end Runs

namespace Annals

variable {server : RenderServer}

/-! ## One step -/

section Moves

variable {before : Annals} {id : String}

/-- A step about one id keeps annals sound if it leaves the runs of all others,
and settles its own id when no job has it. -/
theorem Sound.of_moves
    (sound : before.Sound server)
    (after : Annals)
    (moves : Scene.Moves server id before.scene after.scene)
    (kept : before.past <:+ after.past)
    (different : (after.live.map (·.submission.jobId)).Nodup)
    (inOrder :
      ∀ run ∈ after.live,
        (run ∈ before.live ∧ run.submission.jobId ≠ id) ∨
          run.InOrder server after)
    (complete :
      ∀ run earlier,
        run :: earlier <:+ after.past →
        run :: earlier <:+ before.past ∨ run.Complete server earlier)
    (elsewhere :
      ∀ other,
        other ≠ id →
        after.lastRun? other = before.lastRun? other ∧
        (before.Runs other → after.Runs other))
    (settled :
      isJobId id = true → ¬ after.Runs id → after.Settled server id) :
    after.Sound server where
  wellKeyed := moves.wellKeyed
  telling := moves.telling
  different := different
  inOrder := by
    intro run isLive
    rcases inOrder run isLive with ⟨wasLive, isOther⟩ | isInOrder
    · exact (sound.inOrder run wasLive).left isOther moves kept
    · exact isInOrder
  complete := by
    intro run earlier isPast
    rcases complete run earlier isPast with wasPast | isComplete
    · exact sound.complete run earlier wasPast
    · exact isComplete
  settled := by
    intro other accepted idle
    by_cases isOwn : other = id
    · subst isOwn
      exact settled accepted idle
    · obtain ⟨sameLast, stillRuns⟩ := elsewhere other isOwn
      have wasSettled :=
        sound.settled other accepted fun ran => idle (stillRuns ran)
      have rests := moves.rests other accepted isOwn
      refine ⟨fun noRun => ?_, fun run isLast => ?_⟩
      · have wasBare := wasSettled.bare (sameLast.symm.trans noRun)
        rcases rests.output with same | ⟨gone, _⟩
        · exact same.trans wasBare
        · exact gone
      · exact (wasSettled.rests run (sameLast.symm.trans isLast)).trans rests

/-- No job that runs has an id that can be taken. -/
theorem Sound.not_runs_of_admits
    (sound : before.Sound server)
    (admitted : before.scene.registry.admits id = true) :
    ¬ before.Runs id := by
  rintro ⟨run, isLive, rfl⟩
  obtain ⟨record, owned⟩ := (sound.inOrder run isLive).owned
  exact Registry.not_holdsSlot_of_admits admitted
    (List.contains_iff_mem.mp owned.holds)

end Moves

section Steps

variable {scene : Scene} {live front back : List LiveRun}
  {past : List PastRun} {request : RenderRequest} {submission : Submission}
  {now later : Binary64}

/-- A job that is taken in begins its run; it finds what the last run of its id
left. -/
theorem Sound.begun
    {job : Job}
    (canonical : server.tempDirectory.Canonical)
    (usable : server.tempDirectory.isUsable = true)
    (sound : Sound server { scene, live, past })
    (accepted : request.submission = .ok submission)
    (taken :
      (scene.enrollment request submission now later).result = .ok job) :
    JobRun.Begun server past {
      submission
      start := scene.started request submission now later } := by
  have isId := RenderRequest.isJobId_of_submission accepted
  obtain ⟨owned, isQueued, running⟩ :=
    Registry.started_of_admitted sound.wellKeyed taken
  refine ⟨isId, ⟨job, owned, isQueued, running⟩, fun content stands => ?_⟩
  have stood :
      scene.disk.fileAt? (server.outputOf submission.jobId) = some content :=
    (Scene.output_enrolled canonical usable sound.wellKeyed sound.telling isId
      taken).symm.trans stands
  have settled :=
    sound.settled submission.jobId isId
      (sound.not_runs_of_admits (Registry.admits_of_enroll taken))
  cases isLast : lastRun? { scene, live, past } submission.jobId with
  | none => exact absurd (stood.symm.trans (settled.bare isLast)) (by simp)
  | some earlier =>
      refine ⟨earlier, List.mem_of_find?_eq_some isLast,
        by simpa using List.find?_some isLast, ?_⟩
      rcases (settled.rests earlier isLast).output with same | ⟨gone, _⟩
      · exact same.symm.trans stood
      · exact absurd (stood.symm.trans gone) (by simp)

/-- A job that is taken in joins those that run. -/
theorem Sound.admitted
    {job : Job}
    (canonical : server.tempDirectory.Canonical)
    (usable : server.tempDirectory.isUsable = true)
    (sound : Sound server { scene, live, past })
    (accepted : request.submission = .ok submission)
    (taken :
      (scene.enrollment request submission now later).result = .ok job) :
    Sound server {
      scene := scene.started request submission now later
      live :=
        live ++ [{
          submission
          start := scene.started request submission now later
          rest := submission.run server }]
      past } := by
  let started := scene.started request submission now later
  let run : LiveRun := {
    submission
    start := started
    rest := submission.run server }
  have idle : ¬ Runs { scene, live, past } submission.jobId :=
    sound.not_runs_of_admits (Registry.admits_of_enroll taken)
  have moves : Scene.Moves server submission.jobId scene started :=
    (Scene.Moves.enrollment canonical usable sound.wellKeyed sound.telling
      request submission now later).withTask
  have owned : started.registry.Owned submission.jobId job :=
    (Registry.started_of_admitted sound.wellKeyed taken).1
  refine sound.of_moves
    { scene := started, live := live ++ [run], past } moves
    List.suffix_rfl ?_ ?_ (fun _ _ isPast => Or.inl isPast) ?_ ?_
  · rw [List.map_append, List.map_singleton, ← List.concat_eq_append]
    refine sound.different.concat fun member => ?_
    obtain ⟨other, isLive, same⟩ := List.mem_map.mp member
    exact idle ⟨other, isLive, same⟩
  · intro other member
    rcases List.mem_append.mp member with isLive | isNew
    · exact Or.inl ⟨isLive, fun same => idle ⟨other, isLive, same⟩⟩
    · right
      rw [List.mem_singleton.mp isNew]
      exact ⟨sound.begun canonical usable accepted taken, ⟨job, owned⟩,
        submission.run_orders canonical, started,
        Scene.meanwhile_refl server submission started,
        fun _ _ _ goesOn => goesOn⟩
  · rintro other -
    refine ⟨rfl, ?_⟩
    rintro ⟨earlier, isLive, isOther⟩
    exact ⟨earlier, List.mem_append_left _ isLive, isOther⟩
  · intro _ notRuns
    exact (notRuns ⟨run, by simp, rfl⟩).elim

/-- A job that is refused changes nothing. -/
theorem Sound.refused
    {failure : Failure}
    (canonical : server.tempDirectory.Canonical)
    (usable : server.tempDirectory.isUsable = true)
    (sound : Sound server { scene, live, past })
    (failed :
      (scene.enrollment request submission now later).result =
        .error failure) :
    Sound server {
      scene := scene.applied (scene.enrollment request submission now later)
      live
      past } := by
  rw [Scene.applied_of_refused canonical usable sound.wellKeyed sound.telling
    failed]
  exact sound

/-- A call that is answered leaves all runs in order. -/
theorem Sound.called
    {after : Scene}
    {run : JobRun}
    {call : Call}
    {next : call.Answer → Program (Outcome Unit)}
    {answer : call.Answer}
    (canonical : server.tempDirectory.Canonical)
    (usable : server.tempDirectory.isUsable = true)
    (sound :
      Sound server {
        scene
        live := front ++ { run with rest := .step call next } :: back
        past })
    (answered : scene.Answers server.tempDirectory call answer after)
    (standing :
      ∀ path, call = .makeDirectories path →
        scene.disk.isDirectory path = true) :
    Sound server {
      scene := after
      live :=
        front ++
          { run.extended { before := scene, call, answer, after } with
            rest := next answer } :: back
      past } := by
  let here : LiveRun := { run with rest := .step call next }
  let goneOn : LiveRun :=
    { run.extended { before := scene, call, answer, after } with
      rest := next answer }
  have inOrder :=
    sound.inOrder here (List.mem_append_right front List.mem_cons_self)
  obtain ⟨begun, ⟨record, owned⟩, limited, reached, others, goesOn⟩ := inOrder
  obtain ⟨orders, laterLimited⟩ :
      run.submission.Orders server call ∧
        ∀ answer, (next answer).Limited (run.submission.Orders server) := by
    cases limited with
    | step isPermitted goesOn => exact ⟨isPermitted, goesOn⟩
  obtain ⟨moves, fits, ownedAfter⟩ :=
    Scene.Moves.called canonical usable sound.telling begun.accepted owned
      orders answered standing
  refine sound.of_moves
    { scene := after, live := front ++ goneOn :: back, past } moves
    List.suffix_rfl ?_ ?_ (fun _ _ isPast => Or.inl isPast) ?_ ?_
  · simpa [goneOn, JobRun.extended] using sound.different
  · intro other member
    rcases mem_amid.mp member with isSame | isOther
    · right
      rw [isSame]
      refine ⟨⟨begun.accepted, begun.queued, begun.inherits⟩, ownedAfter,
        laterLimited answer, after,
        Scene.meanwhile_refl server run.submission after, ?_⟩
      intro events outcome final rest
      have whole :=
        goesOn (_ :: events) outcome final (.step others fits rest)
      simpa [goneOn, JobRun.extended] using whole
    · exact Or.inl ⟨mem_amid.mpr (Or.inr isOther),
        ne_of_amid (·.submission.jobId) sound.different isOther⟩
  · intro other isOther
    refine ⟨rfl, ?_⟩
    rintro ⟨earlier, isLive, rfl⟩
    rcases mem_amid.mp isLive with isSame | isElsewhere
    · exact (isOther (isSame ▸ rfl)).elim
    · exact ⟨earlier, mem_amid.mpr (Or.inr isElsewhere), rfl⟩
  · intro _ notRuns
    exact (notRuns ⟨goneOn, by simp, rfl⟩).elim

/-- A run that ends is complete, and what it leaves rests from then on. -/
theorem Sound.ended
    {run : JobRun}
    {outcome : Outcome Unit}
    (sound :
      Sound server {
        scene
        live := front ++ { run with rest := .done outcome } :: back
        past }) :
    Sound server {
      scene := scene.withoutTask run.submission.jobId
      live := front ++ back
      past := { run with left := scene } :: past } := by
  let here : LiveRun := { run with rest := .done outcome }
  let ended : PastRun := { run with left := scene }
  have inOrder :=
    sound.inOrder here (List.mem_append_right front List.mem_cons_self)
  obtain ⟨begun, ⟨record, owned⟩, limited, reached, others, goesOn⟩ := inOrder
  refine sound.of_moves
    { scene := scene.withoutTask run.submission.jobId
      live := front ++ back
      past := ended :: past }
    (.withoutTask sound.wellKeyed sound.telling run.submission.jobId)
    (List.suffix_cons ended past) ?_ ?_ ?_ ?_ ?_
  · refine sound.different.sublist (.map _ ?_)
    exact .append_left (List.sublist_cons_self _ _) front
  · intro other isOther
    exact Or.inl ⟨mem_amid.mpr (Or.inr isOther),
      ne_of_amid (·.submission.jobId) sound.different isOther⟩
  · intro other earlier isPast
    rcases List.suffix_cons_iff.mp isPast with isNew | wasPast
    · right
      obtain ⟨rfl, rfl⟩ := List.cons.inj isNew
      refine ⟨begun, outcome, reached, ?_, others⟩
      simpa using goesOn [] outcome reached (.done reached outcome)
    · exact Or.inl wasPast
  · intro other isOther
    refine ⟨?_, ?_⟩
    · exact List.find?_cons_of_neg (by simpa [ended] using isOther.symm)
    · rintro ⟨earlier, isLive, rfl⟩
      rcases mem_amid.mp isLive with isSame | isElsewhere
      · exact (isOther (isSame ▸ rfl)).elim
      · exact ⟨earlier, isElsewhere, rfl⟩
  · rintro - -
    have isLast :
        lastRun? {
          scene := scene.withoutTask run.submission.jobId
          live := front ++ back
          past := ended :: past } run.submission.jobId = some ended :=
      List.find?_cons_of_pos (by simp [ended])
    refine ⟨fun noRun => absurd (isLast.symm.trans noRun) (by simp), ?_⟩
    intro last isAlsoLast
    rw [← Option.some.inj (isLast.symm.trans isAlsoLast)]
    exact ⟨Or.inl rfl, Or.inl rfl, (Scene.Rests.refl server _ scene).dropped⟩

end Steps

/-- Every step keeps annals sound. -/
theorem Sound.step
    {before after : Annals}
    (canonical : server.tempDirectory.Canonical)
    (usable : server.tempDirectory.isUsable = true)
    (sound : before.Sound server)
    (steps : Step server before after) :
    after.Sound server := by
  cases steps with
  | admitted accepted taken =>
      exact sound.admitted canonical usable accepted taken
  | refused _ failed => exact sound.refused canonical usable failed
  | called answered standing =>
      exact sound.called canonical usable answered standing
  | ended => exact sound.ended

/-! ## All steps from the start -/

/-- Annals that a service reaches whose directory of files in work was cleared
when it started. -/
def Reached
    (server : RenderServer)
    (annals : Annals) :
    Prop :=
  ∃ limit highWater lifetime disk count clean,
    Disk.clear disk server.tempDirectory Server.keptNames =
      (.ok count, clean) ∧
    Relation.ReflTransGen (Step server)
      (opened limit highWater lifetime clean) annals

/-- Annals in which nothing has happened are sound if there is no output. -/
theorem opened_sound
    (server : RenderServer)
    (limit highWater : Int)
    (lifetime : Binary64)
    {disk : Disk}
    (clean :
      ∀ id,
        isJobId id = true →
        disk.fileAt? (server.outputOf id) = none) :
    (opened limit highWater lifetime disk).Sound server where
  wellKeyed := Registry.opened_wellKeyed limit highWater lifetime
  telling := by
    intro id job found
    cases found
  different := List.nodup_nil
  inOrder := by
    intro run member
    cases member
  complete := by
    intro run earlier isPast
    cases List.suffix_nil.mp isPast
  settled := by
    intro id accepted _
    refine ⟨fun _ => clean id accepted, fun run isLast => ?_⟩
    cases isLast

/-- A directory that was cleared can be used. -/
theorem isUsable_of_clear
    {disk clean : Disk}
    {directory : Path}
    {kept : List String}
    {count : Nat}
    (cleared : disk.clear directory kept = (.ok count, clean)) :
    directory.isUsable = true := by
  unfold Disk.clear at cleared
  split at cleared
  · cases cleared
  rename_i made isMade
  exact Disk.isUsable_of_makeDirectories (congrArg Prod.fst isMade)

/-- No output stands in a directory that was cleared. -/
theorem fileAt?_outputOf_of_clear
    {disk clean : Disk}
    {count : Nat}
    {id : String}
    (cleared :
      disk.clear server.tempDirectory Server.keptNames = (.ok count, clean))
    (accepted : isJobId id = true) :
    clean.fileAt? (server.outputOf id) = none := by
  have name : '_' ∈ (id ++ "_output.mp4").toList := by simp
  rw [RenderServer.outputOf_eq_child accepted]
  refine Disk.fileAt?_clear cleared ?_ ?_
  · intro isUp
    rw [isUp] at name
    exact absurd name (by decide)
  · intro isKept
    rw [List.mem_singleton.mp isKept] at name
    exact absurd name (by decide)

/-- All annals that are reached are sound. -/
theorem Reached.sound
    {annals : Annals}
    (canonical : server.tempDirectory.Canonical)
    (reached : annals.Reached server) :
    annals.Sound server := by
  obtain ⟨limit, highWater, lifetime, disk, count, clean, cleared, steps⟩ :=
    reached
  have usable := isUsable_of_clear cleared
  induction steps with
  | refl =>
      exact opened_sound server limit highWater lifetime fun id accepted =>
        fileAt?_outputOf_of_clear cleared accepted
  | tail _ step inductionHypothesis =>
      exact inductionHypothesis.step canonical usable step

end Annals

end Montage
