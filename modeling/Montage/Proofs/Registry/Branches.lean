import Montage.Proofs.Registry.Progress

namespace Montage

/-!
# Stations that come again

A record goes forward in rank, so a station that it has left can come again only
by way of another station of the same rank. There is one such pair: uploading
and finalizing, which are alternatives, and between which a record can be moved
to and fro as often as it is told to.
-/

namespace JobStatus

/-- The stations that are alternatives of one rank. -/
def IsBranch (status : JobStatus) : Prop :=
  status = .uploading ∨ status = .finalizing

/-- Stations of one rank are the same, or alternatives, or they end a job. -/
theorem isBranch_of_rank_eq
    {first second : JobStatus}
    (sameRank : first.rank = second.rank)
    (different : first ≠ second)
    (notFinal : first.isFinal = false) :
    first.IsBranch ∧ second.IsBranch := by
  cases first <;> cases second <;>
    simp_all [rank, isFinal, IsBranch]

theorem IsBranch.rank_eq
    {status : JobStatus}
    (branch : status.IsBranch) :
    status.rank = 3 := by
  rcases branch with rfl | rfl <;> rfl

theorem IsBranch.not_isFinal
    {status : JobStatus}
    (branch : status.IsBranch) :
    status.isFinal = false := by
  rcases branch with rfl | rfl <;> rfl

end JobStatus

namespace Job

/-- A record heeds a station that it has left exactly if both are branches. -/
theorem Precedes.ignores_eq_false_iff
    {old current : Job}
    (forward : old.Precedes current)
    (left : current.status ≠ old.status) :
    current.ignores old.status = false ↔
      old.status.IsBranch ∧ current.status.IsBranch := by
  simp only [ignores, Bool.or_eq_false_iff, decide_eq_false_iff_not,
    Nat.not_lt]
  constructor
  · rintro ⟨notFinal, notAhead⟩
    have sameRank : current.status.rank = old.status.rank :=
      Nat.le_antisymm notAhead forward.rank
    exact (JobStatus.isBranch_of_rank_eq sameRank left notFinal).symm
  · rintro ⟨oldBranch, branch⟩
    exact ⟨branch.not_isFinal,
      Nat.le_of_eq (branch.rank_eq.trans oldBranch.rank_eq.symm)⟩

end Job

namespace Registry

variable {registry : Registry} {hook : EvictionHook} {id statusName : String}
  {told : Option Int} {fields : Fields} {now later : Binary64}
  {current next : Job}

/-- A record comes to another station exactly if it is told to, in proper form,
and heeds it. -/
theorem Steady.status_of_tell_iff
    (steady : registry.Steady)
    (before : registry.find? id = some current)
    (after :
      ((RegistryCall.tell id statusName told fields now later).run hook
        registry).find? id = some next)
    {status : JobStatus}
    (elsewhere : current.status ≠ status) :
    next.status = status ↔
      checkFields fields = .ok () ∧
      JobStatus.find? statusName = some status ∧
      current.ignores status = false := by
  have stays
      (unchanged :
        (registry.tell id statusName (.ofInteger? told) fields now later
          hook).registry = registry) :
      next.status ≠ status := by
    rw [RegistryCall.run, unchanged, before, Option.some.injEq] at after
    exact after ▸ elsewhere
  have course :=
    registry.tell_course id statusName (.ofInteger? told) fields now later hook
  generalize isChange :
      registry.tell id statusName (.ofInteger? told) fields now later hook =
        change at course
  cases course with
  | repeated unchecked => simp [stays (by rw [isChange]), unchecked]
  | nameless checked unknown => simp [stays (by rw [isChange]), unknown]
  | @ignored named _ checked isNamed found ignored =>
      have same : current = _ := Option.some.inj (before.symm.trans found)
      subst same
      simp only [stays (by rw [isChange]), false_iff, checked, isNamed,
        Option.some.injEq, true_and, not_and, Bool.not_eq_false]
      rintro rfl
      exact ignored
  | @heeded named base used heeds =>
      obtain ⟨checked, isNamed, updates⟩ := heeds
      cases updates with
      | unknown absent =>
          rw [absent] at before
          cases before
      | known found heeded =>
          have same : current = base := Option.some.inj (before.symm.trans found)
          subst same
          obtain ⟨touched, swept⟩ :=
            registry.update_swept current named (.ofInteger? told) fields now
              later hook
          obtain ⟨progress, whole, _⟩ := steady.sound before
          have moved := Job.updated_moved whole named told fields
          have isNext :=
            find?_put_self registry
              { (current.updated named (.ofInteger? told) fields).2 with
                touched }
          rw [RegistryCall.run, isChange] at after
          have written := swept.find?_of_find? after
          rw [moved.id, steady.wellKeyed.id_of_find? before, written,
            Option.some.injEq] at isNext
          rw [isNext]
          simp only [moved.status, checked, isNamed, Option.some.injEq,
            true_and, iff_self_and]
          rintro rfl
          exact heeded

/--
From any point of any history, as long as the record of an id is neither
replaced nor dropped: a station that it has left comes again only if it is a
branch, and only from the other one. From there, the next status that is told
brings it back exactly if it is told in proper form; every other station that
the record has left stays behind it, whatever is told.
-/
theorem only_branches_come_again
    (hook : EvictionHook)
    (limit highWater : Int)
    (lifetime : Binary64)
    (earlier between later : List RegistryCall)
    (id : String) :
    let first := (opened limit highWater lifetime).play hook earlier
    let second := first.play hook between
    let third := second.play hook later
    ∀ old left current,
      Lasts hook id first between →
      Lasts hook id second later →
      first.find? id = some old →
      second.find? id = some left →
      third.find? id = some current →
      left.status ≠ old.status →
      (current.status = old.status →
        old.status.IsBranch ∧ left.status.IsBranch) ∧
      (current.status ≠ old.status →
        ∀ statusName told fields now swept next,
          ((RegistryCall.tell id statusName told fields now swept).run hook
            third).find? id = some next →
          (next.status = old.status ↔
            checkFields fields = .ok () ∧
            JobStatus.find? statusName = some old.status ∧
            old.status.IsBranch ∧ current.status.IsBranch)) := by
  intro first second third old left current lasts lastsOn isFirst isSecond
    isThird hasLeft
  have steady : first.Steady :=
    (opened_steady limit highWater lifetime).play hook earlier
  have steadySecond : second.Steady := steady.play hook between
  have steadyThird : third.Steady := steadySecond.play hook later
  have toLeft : old.Precedes left :=
    steady.precedes_play lasts isFirst isSecond
  have toCurrent : left.Precedes current :=
    steadySecond.precedes_play lastsOn isSecond isThird
  have forward : old.Precedes current := toLeft.trans toCurrent
  constructor
  · intro again
    have notAhead : left.status.rank ≤ old.status.rank :=
      again ▸ toCurrent.rank
    have sameRank : old.status.rank = left.status.rank :=
      Nat.le_antisymm toLeft.rank notAhead
    have notFinal : old.status.isFinal = false := by
      rw [← Bool.not_eq_true]
      intro isFinal
      exact hasLeft (congrArg Job.status (toLeft.final isFinal))
    exact JobStatus.isBranch_of_rank_eq sameRank hasLeft.symm notFinal
  · intro isAway statusName told fields now swept next found
    rw [steadyThird.status_of_tell_iff isThird found isAway,
      forward.ignores_eq_false_iff isAway]

/-- A job that was finalizing is uploading again. -/
theorem uploading_comes_again :
    let hook : EvictionHook := fun _ => none
    let first := (opened 1 5 60).play hook
      [.enroll "a" .null 0 0, .tell "a" "uploading" none [] 1 1]
    let second := first.play hook [.tell "a" "finalizing" none [] 2 2]
    let third := second.play hook [.tell "a" "uploading" none [] 3 3]
    ∃ old left current,
      first.find? "a" = some old ∧
      second.find? "a" = some left ∧
      third.find? "a" = some current ∧
      old.status = .uploading ∧
      left.status = .finalizing ∧
      current.status = .uploading ∧
      old.status.IsBranch ∧ left.status.IsBranch := by
  intro hook first second third
  have lasts :
      Lasts hook "a" first [.tell "a" "finalizing" none [] 2 2] := by
    refine ⟨?_, by rfl, trivial⟩
    rintro ⟨⟨_, _, _, isEnroll⟩, _⟩
    cases isEnroll
  have lastsOn :
      Lasts hook "a" second [.tell "a" "uploading" none [] 3 3] := by
    refine ⟨?_, by rfl, trivial⟩
    rintro ⟨⟨_, _, _, isEnroll⟩, _⟩
    cases isEnroll
  obtain ⟨old, isFirst, wasUploading⟩ :
      ∃ old, first.find? "a" = some old ∧ old.status = .uploading :=
    ⟨_, rfl, rfl⟩
  obtain ⟨left, isSecond, wasFinalizing⟩ :
      ∃ left, second.find? "a" = some left ∧ left.status = .finalizing :=
    ⟨_, rfl, rfl⟩
  obtain ⟨current, isThird, isUploading⟩ :
      ∃ current, third.find? "a" = some current ∧
        current.status = .uploading :=
    ⟨_, rfl, rfl⟩
  have hasLeft : left.status ≠ old.status := by
    rw [wasFinalizing, wasUploading]
    decide
  obtain ⟨areBranches, _⟩ :=
    only_branches_come_again hook 1 5 60
      [.enroll "a" .null 0 0, .tell "a" "uploading" none [] 1 1]
      [.tell "a" "finalizing" none [] 2 2]
      [.tell "a" "uploading" none [] 3 3] "a" old left current lasts lastsOn
      isFirst isSecond isThird hasLeft
  exact ⟨old, left, current, isFirst, isSecond, isThird, wasUploading,
    wasFinalizing, isUploading,
    areBranches (isUploading.trans wasUploading.symm)⟩

end Registry

end Montage
