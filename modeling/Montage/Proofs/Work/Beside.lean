import Mathlib.Logic.Relation
import Montage.Proofs.Work.Account

namespace Montage

/-!
# Programs side by side

A run of programs side by side has in it a run of each of them, from the same
state to its end. What the others do happens, for each one, between its own
calls; so it is enough to know which kinds of calls the others make.
-/

/-- Calls that are made for a program, not to choose which one goes on. -/
def Call.isOwn : Call → Bool
  | .schedule => false
  | _ => true

namespace Surroundings

variable {State : Type} {surroundings : Surroundings State}
  {others more : Call → Prop}

/-- What may happen at once where others make calls of a kind, too. -/
def Stirs
    (surroundings : Surroundings State)
    (others : Call → Prop)
    (before after : State) :
    Prop :=
  surroundings.meanwhile before after ∨
    ∃ call answer,
      others call ∧ surroundings.answers before call answer after

/-- Surroundings that are shared with others, who make calls of a kind. -/
def sharedWith
    (surroundings : Surroundings State)
    (others : Call → Prop) :
    Surroundings State where
  meanwhile := Relation.ReflTransGen (surroundings.Stirs others)
  answers := surroundings.answers

theorem meanwhile_sharedWith
    {before after : State}
    (passes : surroundings.meanwhile before after) :
    (surroundings.sharedWith others).meanwhile before after :=
  .single (Or.inl passes)

theorem meanwhile_of_answers
    {before after : State}
    {call : Call}
    {answer : call.Answer}
    (isOther : others call)
    (answered : surroundings.answers before call answer after) :
    (surroundings.sharedWith others).meanwhile before after :=
  .single (Or.inr ⟨call, answer, isOther, answered⟩)

theorem sharedWith_mono
    (includes : ∀ call, others call → more call)
    {before after : State}
    (passes : (surroundings.sharedWith others).meanwhile before after) :
    (surroundings.sharedWith more).meanwhile before after := by
  refine Relation.ReflTransGen.mono ?_ _ _ passes
  rintro first second (idle | ⟨call, answer, isOther, answered⟩)
  · exact Or.inl idle
  · exact Or.inr ⟨call, answer, includes call isOther, answered⟩

/-- To share twice is to share with all, if all are among the second ones. -/
theorem sharedWith_sharedWith
    (includes : ∀ call, others call → more call)
    {before after : State}
    (passes :
      ((surroundings.sharedWith others).sharedWith more).meanwhile before
        after) :
    (surroundings.sharedWith more).meanwhile before after := by
  induction passes with
  | refl => exact .refl
  | tail _ stirred inductionHypothesis =>
      apply inductionHypothesis.trans
      rcases stirred with passed | ⟨call, answer, isOther, answered⟩
      · exact sharedWith_mono includes passed
      · exact meanwhile_of_answers isOther answered

end Surroundings

section Runs

variable {State α β : Type} {surroundings wider : Surroundings State}
  {others more : Call → Prop} {state between final : State}
  {program : Program α} {events : List (Event State)} {value : α}

/-- A run is one in wider surroundings, too. -/
theorem Run.imp
    (run : Run surroundings state program events value final)
    (meanwhile :
      ∀ {before after},
        surroundings.meanwhile before after → wider.meanwhile before after)
    (answers :
      ∀ {before after} {call : Call} {answer : call.Answer},
        surroundings.answers before call answer after →
        wider.answers before call answer after) :
    Run wider state program events value final := by
  induction run with
  | done state value => exact .done state value
  | step others answered _ inductionHypothesis =>
      exact .step (meanwhile others) (answers answered) inductionHypothesis

/-- All that a program does may pass beside others. -/
theorem Run.passes
    (run : Run surroundings state program events value final)
    (limited : program.Limited others) :
    (surroundings.sharedWith others).meanwhile state final := by
  induction run with
  | done state value => exact .refl
  | step meanwhile answered _ inductionHypothesis =>
      cases limited with
      | step isPermitted goesOn =>
          exact ((Surroundings.meanwhile_sharedWith meanwhile).trans
            (Surroundings.meanwhile_of_answers isPermitted answered)).trans
              (inductionHypothesis (goesOn _))

/-- One way through a program amid others, who may go on after its end. -/
def RunAmid
    (surroundings : Surroundings State)
    (others : Call → Prop)
    (state : State)
    (program : Program α)
    (events : List (Event State))
    (value : α)
    (final : State) :
    Prop :=
  ∃ ended,
    Run (surroundings.sharedWith others) state program events value ended ∧
    (surroundings.sharedWith others).meanwhile ended final

namespace RunAmid

theorem done
    (passes : (surroundings.sharedWith others).meanwhile state final)
    (value : α) :
    RunAmid surroundings others state (.done value) [] value final :=
  ⟨state, .done state value, passes⟩

theorem of_run
    (run : Run surroundings state program events value final) :
    RunAmid surroundings others state program events value final :=
  ⟨final, run.imp Surroundings.meanwhile_sharedWith id, .refl⟩

/-- What happened before a run belongs to what happens beside it. -/
theorem after
    (passes : (surroundings.sharedWith others).meanwhile state between)
    (amid : RunAmid surroundings others between program events value final) :
    RunAmid surroundings others state program events value final := by
  obtain ⟨ended, run, later⟩ := amid
  cases run with
  | done => exact .done (passes.trans later) value
  | step meanwhile answered rest =>
      exact ⟨ended, .step (passes.trans meanwhile) answered rest, later⟩

theorem step
    {call : Call}
    {next : call.Answer → Program α}
    {answer : call.Answer}
    (answered : surroundings.answers state call answer between)
    (rest :
      RunAmid surroundings others between (next answer) events value final) :
    RunAmid surroundings others state (.step call next)
      ({ before := state, call, answer, after := between } :: events) value
      final := by
  obtain ⟨ended, run, later⟩ := rest
  exact ⟨ended, .step .refl answered run, later⟩

/-- Who is among others of a kind is among others of all those kinds. -/
theorem flatten
    (includes : ∀ call, others call → more call)
    (amid :
      RunAmid (surroundings.sharedWith others) more state program events value
        between)
    (later : (surroundings.sharedWith others).meanwhile between final) :
    RunAmid surroundings more state program events value final := by
  obtain ⟨ended, run, passed⟩ := amid
  exact ⟨ended, run.imp (Surroundings.sharedWith_sharedWith includes) id,
    (Surroundings.sharedWith_sharedWith includes passed).trans
      (Surroundings.sharedWith_mono includes later)⟩

end RunAmid

/-- The calls of two programs are put together to the calls along a run. -/
structure Weaves
    (own others : List (Event State))
    (events : List (Event State)) :
    Prop where
  within : own.Sublist events
  othersWithin : others.Sublist events
  all :
    (events.filter fun event => event.call.isOwn).Perm
      ((own ++ others).filter fun event => event.call.isOwn)

namespace Weaves

variable {own rest : List (Event State)}

theorem alone : Weaves events [] events :=
  ⟨List.Sublist.refl _, List.nil_sublist _, by simp⟩

theorem swap
    (weaves : Weaves own rest events) :
    Weaves rest own events :=
  ⟨weaves.othersWithin, weaves.within,
    weaves.all.trans (List.perm_append_comm.filter _)⟩

theorem cons
    (weaves : Weaves own rest events)
    (event : Event State) :
    Weaves (event :: own) rest (event :: events) where
  within := weaves.within.cons_cons event
  othersWithin := weaves.othersWithin.cons event
  all := by
    cases isOwn : event.call.isOwn with
    | true =>
        simpa [List.filter_cons, isOwn] using weaves.all.cons event
    | false => simpa [List.filter_cons, isOwn] using weaves.all

/-- To choose who goes on is nobody's own call. -/
theorem schedule
    (weaves : Weaves own rest events)
    {before after : State}
    {answer : Bool} :
    Weaves own rest
      ({ before, call := .schedule, answer, after } :: events) where
  within := weaves.within.cons _
  othersWithin := weaves.othersWithin.cons _
  all := by simpa [List.filter_cons, Call.isOwn] using weaves.all

end Weaves

/-- A run of two programs side by side is a run of each of them. -/
theorem Run.both_cases
    {permitted otherPermitted : Call → Prop}
    {first : Program α}
    {second : Program β}
    {values : α × β}
    (limited : first.Limited permitted)
    (otherLimited : second.Limited otherPermitted)
    (schedules : permitted .schedule)
    (otherSchedules : otherPermitted .schedule)
    (run :
      Run surroundings state (Program.both first second) events values
        final) :
    ∃ own rest,
      Weaves own rest events ∧
      RunAmid surroundings otherPermitted state first own values.1 final ∧
      RunAmid surroundings permitted state second rest values.2 final := by
  induction first generalizing second state events with
  | done value =>
      obtain ⟨own, none, between, ended, shape, earlier, later⟩ :=
        run.andThen_cases
      cases later
      rw [List.append_nil] at shape
      subst shape
      exact ⟨[], events, Weaves.alone.swap,
        .done (earlier.passes otherLimited) value, .of_run earlier⟩
  | step call next inductionHypothesis =>
      cases limited with
      | step isPermitted goesOn =>
      induction second generalizing state events with
      | done value =>
          cases run with
          | step meanwhile answered rest =>
              obtain ⟨own, none, between, ended, shape, earlier, later⟩ :=
                rest.andThen_cases
              cases later
              rw [List.append_nil] at shape
              subst shape
              have first :
                  Run surroundings state (.step call next) _ between final :=
                .step meanwhile answered earlier
              exact ⟨_, [], .alone, .of_run first,
                .done (first.passes (.step isPermitted goesOn)) value⟩
      | step other continuation otherHypothesis =>
          cases otherLimited with
          | step otherIsPermitted otherGoesOn =>
          rw [Program.both, Program.beside] at run
          cases run with
          | @step _ _ _ _ _ _ answer _ _ meanwhile chosen rest =>
          -- Whoever goes on, the other one sees all this pass beside it.
          have passes :
              ∀ {kind : Call → Prop}, kind .schedule →
                ∀ {last}, surroundings.meanwhile _ last →
                  (surroundings.sharedWith kind).meanwhile state last :=
            fun isKind _ idle =>
              ((Surroundings.meanwhile_sharedWith meanwhile).trans
                (Surroundings.meanwhile_of_answers isKind chosen)).trans
                  (Surroundings.meanwhile_sharedWith idle)
          cases answer with
          | true =>
              cases rest with
              | step idle answered remaining =>
                  obtain ⟨own, rest, weaves, amid, otherAmid⟩ :=
                    inductionHypothesis _ (goesOn _)
                      (.step otherIsPermitted otherGoesOn) remaining
                  exact ⟨_, rest, (weaves.cons _).schedule,
                    .after (passes otherSchedules idle) (.step answered amid),
                    .after ((passes schedules idle).trans
                      (Surroundings.meanwhile_of_answers isPermitted answered))
                      otherAmid⟩
          | false =>
              cases rest with
              | step idle answered remaining =>
                  obtain ⟨own, rest, weaves, amid, otherAmid⟩ :=
                    otherHypothesis _ (otherGoesOn _) remaining
                  exact ⟨own, _, (weaves.swap.cons _).swap.schedule,
                    .after ((passes otherSchedules idle).trans
                      (Surroundings.meanwhile_of_answers otherIsPermitted
                        answered)) amid,
                    .after (passes schedules idle) (.step answered otherAmid)⟩

end Runs

/-! ## Many programs -/

/-- One of the programs that were run side by side: what it was for, its calls
and its value. -/
structure Strand (Item State α : Type) where
  item : Item
  events : List (Event State)
  value : α

theorem Program.Limited.all
    {Item α : Type}
    {program : Program α}
    {spares : Item → Call → Prop}
    {items : List Item}
    (limited : ∀ item ∈ items, program.Limited (spares item)) :
    program.Limited fun call => ∀ item ∈ items, spares item call := by
  induction program with
  | done value => exact .done value
  | step call next inductionHypothesis =>
      constructor
      · intro item member
        cases limited item member with
        | step isPermitted goesOn => exact isPermitted
      · intro answer
        apply inductionHypothesis
        intro item member
        cases limited item member with
        | step isPermitted goesOn => exact goesOn answer

/--
A run of programs side by side, each of which spares what the others are for, is
a run of each of them amid calls that spare what it is for; all calls are calls
of one of them.
-/
theorem Run.gather_cases
    {Item State α : Type}
    {surroundings : Surroundings State}
    {program : Item → Program α}
    {spares : Item → Call → Prop}
    (schedules : ∀ item, spares item .schedule)
    {items : List Item}
    (different : items.Nodup)
    (limited :
      ∀ item ∈ items, ∀ other ∈ items, other ≠ item →
        (program other).Limited (spares item))
    {state final : State}
    {events : List (Event State)}
    {values : List α}
    (run :
      Run surroundings state (Program.gather (items.map program)) events values
        final) :
    ∃ strands : List (Strand Item State α),
      strands.map Strand.item = items ∧
      strands.map Strand.value = values ∧
      (events.filter fun event => event.call.isOwn).Perm
        ((strands.flatMap Strand.events).filter
          fun event => event.call.isOwn) ∧
      ∀ strand ∈ strands,
        strand.events.Sublist events ∧
        RunAmid surroundings (spares strand.item) state
          (program strand.item) strand.events strand.value final := by
  induction items generalizing surroundings events values final with
  | nil =>
      cases run
      exact ⟨[], rfl, rfl, .refl _, by simp⟩
  | cons item rest inductionHypothesis =>
      obtain ⟨isNew, restDifferent⟩ := List.nodup_cons.mp different
      have restLimited :
          ∀ other ∈ rest, ∀ further ∈ rest, further ≠ other →
            (program further).Limited (spares other) :=
        fun other member further furtherMember =>
          limited other (List.mem_cons_of_mem item member) further
            (List.mem_cons_of_mem item furtherMember)
      have itemLimited :
          (program item).Limited
            fun call => ∀ other ∈ rest, spares other call := by
        apply Program.Limited.all
        intro other member
        apply limited other (List.mem_cons_of_mem item member) item
          List.mem_cons_self
        rintro rfl
        exact isNew member
      have othersLimited :
          (Program.gather (rest.map program)).Limited (spares item) := by
        apply Program.Limited.gather (schedules item)
        intro other member
        obtain ⟨further, isRest, rfl⟩ := List.mem_map.mp member
        apply limited item List.mem_cons_self further
          (List.mem_cons_of_mem item isRest)
        rintro rfl
        exact isNew isRest
      obtain ⟨woven, none, pair, ended, shape, earlier, later⟩ :=
        run.andThen_cases
      cases later
      rw [List.append_nil] at shape
      subst shape
      obtain ⟨own, others, weaves, amid, reached, othersRun, passed⟩ :=
        earlier.both_cases itemLimited othersLimited
          (fun other _ => schedules other) (schedules item)
      obtain ⟨strands, areItems, areValues, all, each⟩ :=
        inductionHypothesis restDifferent restLimited othersRun
      refine ⟨{ item, events := own, value := pair.1 } :: strands, ?_, ?_, ?_,
        ?_⟩
      · rw [List.map_cons, areItems]
      · rw [List.map_cons, areValues]
      · refine weaves.all.trans ?_
        rw [List.flatMap_cons, List.filter_append, List.filter_append]
        exact all.append_left _
      · intro strand member
        rcases List.mem_cons.mp member with rfl | isOther
        · exact ⟨weaves.within, amid⟩
        · obtain ⟨within, otherAmid⟩ := each strand isOther
          have isRest : strand.item ∈ rest :=
            areItems ▸ List.mem_map_of_mem isOther
          exact ⟨within.trans weaves.othersWithin,
            otherAmid.flatten (fun _ spared => spared _ isRest) passed⟩

end Montage
