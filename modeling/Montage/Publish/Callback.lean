import Montage.Asset.Download
import Montage.Json.Shown

namespace Montage

/-!
# Callbacks

The end of a job is told to an address of the client. An attempt that fails is
repeated after a pause, which grows with each attempt.
-/

/-- How often, and after which pauses, a callback is attempted. -/
structure CallbackPolicy where
  attempts : Nat
  /-- The pause after the first attempt. -/
  pause : Amount

namespace CallbackPolicy

/-- The pause after an attempt. -/
def pauseAfter
    (policy : CallbackPolicy)
    (attempt : Nat) :
    Outcome Amount :=
  ofArithmetic (policy.pause.multiply (.whole attempt))

/-- Go on unless there is a failure that no further attempt can mend. -/
def delivered? : Outcome Nat → Outcome Bool
  | .ok status => .ok (isSuccess status)
  | .error failure =>
      if failure.failureClass = .transport then .ok false else .error failure

/-- Attempt a callback once. -/
def attempt
    (address : String)
    (document : Json) :
    Program (Outcome Nat) :=
  match Address.readRequested address with
  | .error cause => pure (.error (.address cause))
  | .ok target =>
      if document.isFinite then
        Program.step (.post target.toText document) fun answer =>
          pure (answer.bind fun status =>
            target.checkScheme.map fun _ => status)
      else
        pure (.error .infiniteNumber)

/-- Attempt a callback until one attempt succeeds, so many times at most. -/
def sendFrom
    (policy : CallbackPolicy)
    (address : String)
    (document : Json) :
    Nat → Nat → Program (Outcome Bool)
  | _, 0 => pure (.ok false)
  | number, remaining + 1 => do
      let answer ← attempt address document
      match delivered? answer with
      | .error failure => pure (.error failure)
      | .ok true => pure (.ok true)
      | .ok false =>
          if remaining = 0 then
            pure (.ok false)
          else
            match policy.pauseAfter number with
            | .error failure => pure (.error failure)
            | .ok pause =>
                Program.step (.sleep pause) fun _ =>
                  policy.sendFrom address document (number + 1) remaining

/-- Tell a document to an address; without an address there is nothing to do. -/
def send
    (policy : CallbackPolicy)
    (address : Option String)
    (document : Json) :
    Program (Outcome Bool) :=
  match nonempty? address with
  | none => pure (.ok false)
  | some target => policy.sendFrom target document 1 policy.attempts

/-- Tell a value to an address that may be of any type: an address that is
given has to be a text, as soon as it is used, and the value an object. -/
def sendValue
    (policy : CallbackPolicy)
    (address : Json)
    (value : Json) :
    Program (Outcome Bool) :=
  match address, value with
  | .text target, .object _ => policy.send (some target) value
  | _, .object _ =>
      pure <|
        if address.isGiven && policy.attempts ≠ 0 then
          .error (.shape (.noAddressText (.of address) address.shown))
        else
          .ok false
  | _, _ =>
      pure <|
        if address.isGiven then
          .error (.shape (.noFields (.of value)))
        else
          .ok false

end CallbackPolicy

end Montage
