import Montage.Failure

namespace Montage

/-!
# Sessions

A session tries a part of the server out: commands are run one after another,
and after each of them it is told what it answered and what can be observed.
-/

/-- What a command answers, what is observed after it, and what it leaves. -/
structure SessionStep (State : Type) where
  result : Outcome Json
  observed : Fields := []
  state : State

/-- What is told of a command. -/
structure SessionAnswer where
  result : Outcome Json
  observed : Fields

/-- Run commands one after another. -/
def playSession
    {State Command : Type}
    (step : State → Command → SessionStep State) :
    State → List Command → List SessionAnswer
  | _, [] => []
  | state, command :: rest =>
      let taken := step state command
      { result := taken.result, observed := taken.observed } ::
        playSession step taken.state rest

end Montage
