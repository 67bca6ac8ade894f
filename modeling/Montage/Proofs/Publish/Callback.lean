import Montage.Proofs.Number.Nearest
import Montage.Proofs.Render.Notice
import Montage.Publish.Callback

namespace Montage

/-!
# Callbacks, attempt by attempt

A callback is attempted until an attempt succeeds or none is left. Whatever
comes of the attempts, it makes as many requests as it needs, all of them alike,
with a growing pause after each but the last.
-/

/-! ## Outcomes of attempts -/

/-- What comes of an attempt that gets an answer. Some addresses and documents
are refused before a request is made, and some addresses after it. -/
def attemptOutcome
    (address : String)
    (document : Json)
    (answer : Outcome Nat) :
    Outcome Nat :=
  match Address.readRequested address with
  | .error cause => .error (.address cause)
  | .ok target =>
      if document.isFinite then
        answer.bind fun status => target.checkScheme.map fun _ => status
      else
        .error .infiniteNumber

/-- The address to which the requests for an address go. -/
def postedTo (address : String) : String :=
  match Address.readRequested address with
  | .ok target => target.toText
  | .error _ => address

/-- A server told some status, or the transport failed. -/
def IsHeard (outcome : Outcome Nat) : Prop :=
  (∃ status, outcome = .ok status) ∨
    ∃ failure, outcome = .error failure ∧ failure.failureClass = .transport

/-- A server told that it took the document. -/
def IsDelivery (outcome : Outcome Nat) : Prop :=
  ∃ status, outcome = .ok status ∧ 200 ≤ status ∧ status < 300

theorem not_isHeard_of_error
    {failure : Failure}
    (notTransport : failure.failureClass ≠ .transport) :
    ¬ IsHeard (.error failure) := by
  rintro (⟨status, isStatus⟩ | ⟨other, isOther, transport⟩)
  · cases isStatus
  · cases isOther
    exact notTransport transport

section Attempts

variable {address : String} {document : Json} {answer : Outcome Nat}

/-- An address that tells how to speak to its server lets every answer to a
document with finite numbers through. -/
theorem attemptOutcome_eq
    {target : Address}
    (read : Address.readRequested address = .ok target)
    (complete : target.isComplete = true)
    (finite : document.isFinite = true) :
    attemptOutcome address document answer = answer := by
  cases answer <;>
    simp [attemptOutcome, read, finite, Except.bind, Except.map,
      Address.checkScheme, complete]

/-- An attempt that is heard asks the server, and comes to what it answers. -/
theorem attempt_of_isHeard
    (heard : IsHeard (attemptOutcome address document answer)) :
    attemptOutcome address document answer = answer ∧
    CallbackPolicy.attempt address document =
      .step (.post (postedTo address) document) fun answer =>
        .done (attemptOutcome address document answer) := by
  -- An address or a document that the client refuses is no failure of the
  -- transport, so each of these ways contradicts that the attempt is heard.
  cases read : Address.readRequested address with
  | error cause =>
      simp only [attemptOutcome, read] at heard
      exact absurd heard (not_isHeard_of_error (by simp [Failure.failureClass]))
  | ok target =>
      by_cases finite : document.isFinite = true
      · constructor
        · by_cases complete : target.isComplete = true
          · exact attemptOutcome_eq read complete finite
          · cases answer with
            | error failure => simp [attemptOutcome, read, finite, Except.bind]
            | ok status =>
                simp only [attemptOutcome, read, finite, ↓reduceIte,
                  Except.bind, Except.map, Address.checkScheme, complete,
                  Bool.false_eq_true] at heard
                exact absurd heard
                  (not_isHeard_of_error (by simp [Failure.failureClass]))
        · have isTarget : postedTo address = target.toText := by
            simp only [postedTo, read]
          rw [isTarget]
          simp only [CallbackPolicy.attempt, attemptOutcome, read, finite,
            ↓reduceIte]
          rfl
      · simp only [attemptOutcome, read, finite, Bool.false_eq_true,
          ↓reduceIte] at heard
        exact absurd heard
          (not_isHeard_of_error (by simp [Failure.failureClass]))

/-- Whether a server told that it took the document. -/
def delivers : Outcome Nat → Bool
  | .ok status => isSuccess status
  | .error _ => false

theorem delivers_iff
    {outcome : Outcome Nat} :
    delivers outcome = true ↔ IsDelivery outcome := by
  cases outcome with
  | error failure => simp [delivers, IsDelivery]
  | ok status => simp [delivers, IsDelivery, isSuccess]

theorem delivered?_of_isHeard
    {outcome : Outcome Nat}
    (heard : IsHeard outcome) :
    CallbackPolicy.delivered? outcome = .ok (delivers outcome) := by
  rcases heard with ⟨status, rfl⟩ | ⟨failure, rfl, transport⟩
  · rfl
  · exact if_pos transport

end Attempts

/-! ## Requests and pauses -/

/-- Whether a call sends a document. -/
def Call.isPost : Call → Bool
  | .post _ _ => true
  | _ => false

/-- So many requests, with a pause after each but the last. -/
def spacedRequests
    (request : Call)
    (pause : Nat → Amount)
    (number count : Nat) :
    List Call :=
  ((List.range' number count).flatMap fun attempt =>
    [request, .sleep (pause attempt)]).dropLast

theorem spacedRequests_succ
    (request : Call)
    (pause : Nat → Amount)
    (number : Nat)
    {count : Nat}
    (some : count ≠ 0) :
    spacedRequests request pause number (count + 1) =
      request :: .sleep (pause number) ::
        spacedRequests request pause (number + 1) count := by
  obtain ⟨fewer, rfl⟩ := Nat.exists_eq_succ_of_ne_zero some
  simp [spacedRequests, List.range'_succ]

theorem countP_spacedRequests
    (address : String)
    (document : Json)
    (pause : Nat → Amount)
    (number count : Nat) :
    (spacedRequests (.post address document) pause number count).countP
      Call.isPost = count := by
  induction count generalizing number with
  | zero => rfl
  | succ count inductionHypothesis =>
      by_cases none : count = 0
      · subst none
        rfl
      · rw [spacedRequests_succ _ _ _ none, List.countP_cons,
          List.countP_cons, inductionHypothesis]
        rfl

/-! ## Runs -/

/-- Answer the requests one after another, and keep a log of all calls. -/
def answerInTurn
    (answers : Nat → Outcome Nat)
    (elsewhere : (call : Call) → call.Answer)
    (log : List Call) :
    (call : Call) → call.Answer × List Call
  | .post address document =>
      (answers (log.countP Call.isPost + 1), log ++ [.post address document])
  | call => (elsewhere call, log ++ [call])

/-- How many attempts are made from one of them on, if so many are left. -/
def attemptsMade (outcomes : Nat → Outcome Nat) : Nat → Nat → Nat
  | _, 0 => 0
  | number, remaining + 1 =>
      if delivers (outcomes number) then
        1
      else
        attemptsMade outcomes (number + 1) remaining + 1

variable {outcomes : Nat → Outcome Nat} {number remaining : Nat}

theorem attemptsMade_ne_zero
    (outcomes : Nat → Outcome Nat)
    (number : Nat)
    {remaining : Nat}
    (some : remaining ≠ 0) :
    attemptsMade outcomes number remaining ≠ 0 := by
  obtain ⟨fewer, rfl⟩ := Nat.exists_eq_succ_of_ne_zero some
  rw [attemptsMade]
  split <;> simp

/-- Attempts go on until one of them succeeds. -/
theorem attemptsMade_of_first
    {first : Nat}
    (left : number ≤ first ∧ first < number + remaining)
    (succeeds : delivers (outcomes first) = true)
    (isFirst :
      ∀ earlier, number ≤ earlier → earlier < first →
        delivers (outcomes earlier) = false) :
    number + attemptsMade outcomes number remaining = first + 1 := by
  induction remaining generalizing number with
  | zero => omega
  | succ remaining inductionHypothesis =>
      rcases Nat.eq_or_lt_of_le left.1 with rfl | later
      · rw [attemptsMade, if_pos succeeds]
      · have fails := isFirst number (Nat.le_refl _) later
        have rest :
            number + 1 + attemptsMade outcomes (number + 1) remaining =
              first + 1 :=
          inductionHypothesis ⟨later, by omega⟩ fun earlier above =>
            isFirst earlier (Nat.le_of_succ_le above)
        rw [attemptsMade, fails, if_neg Bool.false_ne_true]
        omega

/-- All attempts are made if none of them succeeds. -/
theorem attemptsMade_of_none
    (fails :
      ∀ later, number ≤ later → later < number + remaining →
        delivers (outcomes later) = false) :
    attemptsMade outcomes number remaining = remaining := by
  induction remaining generalizing number with
  | zero => rfl
  | succ remaining inductionHypothesis =>
      have rest := inductionHypothesis fun later above below =>
        fails later (Nat.le_of_succ_le above) (by omega)
      rw [attemptsMade, fails number (Nat.le_refl _) (by omega),
        if_neg Bool.false_ne_true, rest]

/-! ## Pauses -/

/-- An amount is another one so many times: exactly so if that is a whole
number, and else the nearest number to that. -/
def Amount.IsTimes (product : Amount) (count : Nat) : Amount → Prop
  | .flag value => product = .whole ((if value then 1 else 0) * count)
  | .whole value => product = .whole (value * count)
  | .fraction value =>
      ∃ counted result : Binary64,
        product = .fraction result ∧
          result = value * counted ∧
          (count < powerOfTwo 53 → counted.exact = count) ∧
          (result.isFinite = true →
            result.IsNearest (value.exact * counted.exact))

/-- The pause after an attempt is the unit of pauses, as many times as there
were attempts. -/
theorem CallbackPolicy.isTimes_of_pauseAfter
    {policy : CallbackPolicy}
    {number : Nat}
    {pause : Amount}
    (isPause : policy.pauseAfter number = .ok pause) :
    pause.IsTimes number policy.pause := by
  unfold pauseAfter Amount.multiply Amount.combine at isPause
  generalize policy.pause = unit at isPause ⊢
  cases unit with
  | flag value =>
      cases isPause
      rfl
  | whole value =>
      cases isPause
      rfl
  | fraction value =>
      simp only [Amount.integer?, Amount.toBinary64] at isPause
      cases isCounted : Binary64.ofInteger number with
      | error cause =>
          rw [isCounted] at isPause
          cases isPause
      | ok counted =>
          rw [isCounted] at isPause
          cases isPause
          refine ⟨counted, _, rfl, rfl, fun short => ?_,
            Binary64.isNearest_multiply⟩
          have place :=
            Binary64.position_of_ofInteger
              (show (number : Int).natAbs < powerOfTwo 53 from short) isCounted
          exact Binary64.exact_of_whole (by rw [place]; push_cast; rfl)

namespace CallbackPolicy

variable {policy : CallbackPolicy} {address : String} {document : Json}
  {answers : Nat → Outcome Nat} {pause : Nat → Amount} {log : List Call}
  {elsewhere : (call : Call) → call.Answer}

/-- One attempt that is heard, and what follows it. -/
theorem run_sendFrom_succ
    (isNumber : log.countP Call.isPost + 1 = number)
    (heard : IsHeard (attemptOutcome address document (answers number)))
    (paced :
      remaining ≠ 0 → policy.pauseAfter number = .ok (pause number)) :
    (policy.sendFrom address document number (remaining + 1)).run
        (answerInTurn answers elsewhere) log =
      if delivers (answers number) = true ∨ remaining = 0 then
        (.ok (delivers (answers number)),
          log ++ [.post (postedTo address) document])
      else
        (policy.sendFrom address document (number + 1) remaining).run
          (answerInTurn answers elsewhere)
          (log ++
            [.post (postedTo address) document, .sleep (pause number)]) := by
  obtain ⟨isAnswer, isAttempt⟩ := attempt_of_isHeard heard
  have now := delivered?_of_isHeard heard
  rw [isAnswer] at now
  simp only [sendFrom, isAttempt, bind, Program.andThen, Program.run,
    answerInTurn, isNumber, isAnswer, now]
  cases delivers (answers number) with
  | true => rfl
  | false =>
      by_cases isLast : remaining = 0
      · simp only [isLast, ↓reduceIte, or_true]
        rfl
      · simp only [isLast, ↓reduceIte, or_false, paced isLast,
          Bool.false_eq_true, Program.run, answerInTurn]
        simp

/-- Attempts that are all heard are made one after another until one of them
succeeds, with pauses between. -/
theorem run_sendFrom
    (policy : CallbackPolicy)
    (elsewhere : (call : Call) → call.Answer)
    (remaining : Nat)
    (isNumber : log.countP Call.isPost + 1 = number)
    (heard :
      ∀ later, number ≤ later → later < number + remaining →
        IsHeard (attemptOutcome address document (answers later)))
    (paced :
      ∀ later, number ≤ later → later + 1 < number + remaining →
        policy.pauseAfter later = .ok (pause later)) :
    (policy.sendFrom address document number remaining).run
        (answerInTurn answers elsewhere) log =
      (.ok ((List.range' number remaining).any (delivers ∘ answers)),
        log ++
          spacedRequests (.post (postedTo address) document) pause number
            (attemptsMade answers number remaining)) := by
  -- By induction on the attempts left; the log counts the ones that were made.
  induction remaining generalizing number log with
  | zero =>
      simp only [attemptsMade, spacedRequests, List.range'_zero,
        List.flatMap_nil, List.dropLast_nil, List.append_nil]
      rfl
  | succ remaining inductionHypothesis =>
      rw [run_sendFrom_succ isNumber (heard number (Nat.le_refl _) (by omega))
        fun goesOn => paced number (Nat.le_refl _) (by omega)]
      by_cases delivered : delivers (answers number) = true
      · simp [attemptsMade, delivered, List.range'_succ, spacedRequests]
      · by_cases isLast : remaining = 0
        · simp [attemptsMade, delivered, isLast, spacedRequests]
        · have goesOn := attemptsMade_ne_zero answers (number + 1) isLast
          have counted :
              (log ++ [Call.post (postedTo address) document,
                Call.sleep (pause number)]).countP Call.isPost + 1 =
                  number + 1 := by
            rw [List.countP_append, ← isNumber]
            rfl
          rw [if_neg (by simp [delivered, isLast]),
            inductionHypothesis counted
              (fun later above below => heard later (by omega) (by omega))
              (fun later above below => paced later (by omega) (by omega)),
            attemptsMade, if_neg delivered, spacedRequests_succ _ _ _ goesOn,
            List.range'_succ]
          simp [delivered]

theorem send_eq
    (given : address ≠ "") :
    policy.send (some address) document =
      policy.sendFrom address document 1 policy.attempts := by
  have isText : nonempty? (some address) = some address := by
    simp [nonempty?, Option.filter, given]
  simp only [send, isText]

/-- A callback makes as many requests as it needs, and no more than it may: it
ends with the first attempt that succeeds, or with the last one. The requests
are all alike, a pause stands between each and the next, which is the unit of
pauses as many times as there were requests, and the callback tells whether an
attempt succeeded. Up to `2 ^ 1023` attempts each pause
is a number (`isPaced_of_attempts`). -/
theorem callback_is_attempted_until_delivered
    (policy : CallbackPolicy)
    (elsewhere : (call : Call) → call.Answer)
    (given : address ≠ "")
    (heard :
      ∀ number, 1 ≤ number → number ≤ policy.attempts →
        IsHeard (attemptOutcome address document (answers number)))
    (paced :
      ∀ number, 1 ≤ number → number < policy.attempts →
        policy.pauseAfter number = .ok (pause number)) :
    ∃ told calls,
      (policy.send (some address) document).run
          (answerInTurn answers elsewhere) [] = (.ok told, calls) ∧
      calls =
        spacedRequests (.post (postedTo address) document) pause 1
          (calls.countP Call.isPost) ∧
      (∀ number, 1 ≤ number → number < policy.attempts →
        (pause number).IsTimes number policy.pause) ∧
      (∀ first, 1 ≤ first → first ≤ policy.attempts →
        IsDelivery (answers first) →
        (∀ earlier, 1 ≤ earlier → earlier < first →
          ¬ IsDelivery (answers earlier)) →
        calls.countP Call.isPost = first) ∧
      ((∀ number, 1 ≤ number → number ≤ policy.attempts →
          ¬ IsDelivery (answers number)) →
        calls.countP Call.isPost = policy.attempts) ∧
      (told = true ↔
        ∃ number, 1 ≤ number ∧ number ≤ policy.attempts ∧
          IsDelivery (answers number)) := by
  have none : ([] : List Call).countP Call.isPost + 1 = 1 := rfl
  have ran :=
    policy.run_sendFrom elsewhere policy.attempts none
      (fun later above below => heard later above (by omega))
      (fun later above below => paced later above (by omega))
  rw [List.nil_append] at ran
  have fails {outcome : Outcome Nat} (notDelivery : ¬ IsDelivery outcome) :
      delivers outcome = false := by
    rw [← delivers_iff] at notDelivery
    exact Bool.eq_false_iff.mpr notDelivery
  refine ⟨_, _, by rw [send_eq given, ran], ?_, ?_, ?_, ?_, ?_⟩
  · rw [countP_spacedRequests]
  · intro number above below
    exact isTimes_of_pauseAfter (paced number above below)
  · intro first above below succeeds isFirst
    have counted : 1 + attemptsMade answers 1 policy.attempts = first + 1 :=
      attemptsMade_of_first ⟨above, by omega⟩ (delivers_iff.mpr succeeds)
        fun earlier above below => fails (isFirst earlier above below)
    rw [countP_spacedRequests]
    omega
  · intro never
    rw [countP_spacedRequests]
    exact attemptsMade_of_none fun later above below =>
      fails (never later above (by omega))
  · simp only [List.any_eq_true, List.mem_range'_1, Function.comp_apply,
      delivers_iff]
    constructor
    · rintro ⟨number, ⟨above, below⟩, succeeds⟩
      exact ⟨number, above, by omega, succeeds⟩
    · rintro ⟨number, above, below, succeeds⟩
      exact ⟨number, ⟨above, by omega⟩, succeeds⟩

/-- An error, a lost connection, and successes. -/
def thirdTimeLucky : Nat → Outcome Nat
  | 1 => .ok 500
  | 2 => .error (.reported .connection "refused")
  | _ => .ok 204

/-- A callback that succeeds at the third of five attempts makes three, with
pauses of five and ten seconds between them. -/
theorem callback_succeeds_at_third_attempt :
    let request : Call :=
      .post "http://caller.test/hooks/render"
        (.object [("job_id", .text "job1")])
    (send { attempts := 5, pause := .fraction 5 }
        (some "http://caller.test/hooks/render")
        (.object [("job_id", .text "job1")])).run
      (answerInTurn thirdTimeLucky Call.favourable) [] =
        (.ok true,
          [request, .sleep (.fraction 5), request, .sleep (.fraction 10),
            request]) := by
  intro request
  let policy : CallbackPolicy := { attempts := 5, pause := .fraction 5 }
  let pause (number : Nat) : Amount :=
    .fraction (.ofDecimal false (5 * number) 0)
  have isTarget :
      postedTo "http://caller.test/hooks/render" =
        "http://caller.test/hooks/render" := by
    decide +kernel
  have heard :
      ∀ number, 1 ≤ number → number ≤ policy.attempts →
        IsHeard
          (attemptOutcome "http://caller.test/hooks/render"
            (.object [("job_id", .text "job1")]) (thirdTimeLucky number)) := by
    intro number _ _
    have isComplete :
        (Address.readRequested
          "http://caller.test/hooks/render").toOption.any
            Address.isComplete = true := by
      decide +kernel
    cases read :
        Address.readRequested "http://caller.test/hooks/render" with
    | error cause =>
        rw [read] at isComplete
        cases isComplete
    | ok target =>
        rw [read] at isComplete
        rw [attemptOutcome_eq read isComplete rfl]
        unfold thirdTimeLucky
        split
        · exact Or.inl ⟨500, rfl⟩
        · exact Or.inr ⟨_, rfl, rfl⟩
        · exact Or.inl ⟨204, rfl⟩
  have paced :
      ∀ number, 1 ≤ number → number < policy.attempts →
        policy.pauseAfter number = .ok (pause number) := by
    intro number _
    have each :
        ∀ number < 5,
          (policy.pauseAfter number).toOption = some (pause number) := by
      decide +kernel
    exact fun below => Outcome.eq_ok_of_toOption (each number below)
  obtain ⟨told, calls, ran, shape, -, atFirst, -, succeeds⟩ :=
    policy.callback_is_attempted_until_delivered Call.favourable (by decide)
      heard paced
  have made := atFirst 3 (by decide) (by decide) ⟨204, rfl, by decide⟩
    fun earlier above below => by
      rintro ⟨status, isStatus, success⟩
      obtain rfl | rfl : earlier = 1 ∨ earlier = 2 := by omega
      · cases isStatus
        omega
      · cases isStatus
  have isTold : told = true :=
    succeeds.mpr ⟨3, by decide, by decide, 204, rfl, by decide⟩
  have isFive : pause 1 = .fraction 5 := by decide +kernel
  have isTen : pause 2 = .fraction 10 := by decide +kernel
  rw [ran, isTold, shape, made, isTarget]
  simp [spacedRequests, List.range'_succ, isFive, isTen, request]

end CallbackPolicy

end Montage
