import Montage.Disk.Basic
import Montage.Job.Record
import Montage.Number.Amount

namespace Montage

/-!
# Programs

A program is a value, or a call and what to do with each answer. Programs do
nothing by themselves: they are run by surroundings that answer calls, and two
of them can be run side by side, one call of either at a time.
-/

/-! ## Calls

What a job asks of its surroundings: the disk, the network, the encoder, the
storage, the clock and the registry. A call says what is asked; its answer has
a type of its own.
-/

/-- An answer of a remote server to one request. -/
structure Reply where
  status : Nat
  /-- Where else to ask. -/
  location : Option String := none
  body : Bytes := []
  /-- Why the body ends before it is complete. -/
  broken : Option Failure := none

/-- What a finished program leaves. -/
structure ProcessResult where
  code : Int := 0
  output : Bytes := []
  errorOutput : Bytes := []
deriving DecidableEq, Repr

/-- What is told about a job. -/
structure StatusUpdate where
  jobId : String
  status : JobStatus
  progress : Option Int := none
  fields : Fields := []

/-- A request to the surroundings. -/
inductive Call
  /-- Make a directory and those above it. -/
  | makeDirectories (path : Path)
  /-- Ask how many bytes are free. -/
  | freeBytes (path : Path)
  /-- Read a file. -/
  | readFile (path : Path)
  /-- Write a file, new or in the stead of an old one. -/
  | writeFile (path : Path) (content : Bytes)
  /-- Write at the end of a file. -/
  | appendFile (path : Path) (content : Bytes)
  /-- Ask whether something stands at a path. -/
  | holds (path : Path)
  /-- Ask for the size of a file. -/
  | fileSize (path : Path)
  /-- Remove files, passing over failures of the system. -/
  | removeFiles (paths : List Path)
  /-- Ask which file a font name stands for. -/
  | fontFile (name : String)
  /-- Ask which family a font name stands for. -/
  | fontFamily (name : String)
  /-- Send one request for a remote resource. -/
  | request (address : String)
  /-- Send a document to an address. -/
  | post (address : String) (document : Json)
  /-- Run the encoder. -/
  | encode (arguments : List String)
  /-- Run the probe. -/
  | probe (arguments : List String)
  /-- Copy a stored object into a file. -/
  | download (key : String) (destination : Path)
  /-- Store a file under a key; the answer is its public address. -/
  | upload (source : Path) (key contentType : String)
  /-- Wait for some seconds. -/
  | sleep (seconds : Amount)
  /-- Tell the registry about a job. -/
  | tell (update : StatusUpdate)
  /-- Ask which of two programs goes on. -/
  | schedule

/-- The type of the answer to a call. -/
def Call.Answer : Call → Type
  | makeDirectories _ => Outcome Unit
  | freeBytes _ => Outcome Amount
  | readFile _ => Outcome Bytes
  | writeFile _ _ => Outcome Unit
  | appendFile _ _ => Outcome Unit
  | holds _ => Outcome Bool
  | fileSize _ => Outcome Nat
  | removeFiles _ => Outcome Unit
  | fontFile _ => String
  | fontFamily _ => String
  | request _ => Outcome Reply
  | post _ _ => Outcome Nat
  | encode _ => Outcome ProcessResult
  | probe _ => Outcome ProcessResult
  | download _ _ => Outcome Unit
  | upload _ _ _ => Outcome String
  | sleep _ => Unit
  | tell _ => Outcome Unit
  | schedule => Bool

/-! ## Programs that call -/

/-- A computation that asks its surroundings. -/
inductive Program (α : Type)
  | done (value : α)
  | step (call : Call) (next : call.Answer → Program α)

namespace Program

variable {α β γ : Type}

/-- Go on with the value of a program. -/
def andThen : Program α → (α → Program β) → Program β
  | done value, continuation => continuation value
  | step call next, continuation =>
      step call fun answer => (next answer).andThen continuation

instance : Monad Program where
  pure := done
  bind := andThen

/-- The program that makes one call. -/
def perform (call : Call) : Program call.Answer :=
  step call done

/--
Run the next call of one program beside another: the surroundings choose whose
call comes first. When the other has ended, the first goes on alone.
-/
def beside
    (call : Call)
    (next : call.Answer → Program β → Program γ)
    (alone : β → Program γ) :
    Program β → Program γ
  | done value => alone value
  | step other continuation =>
      step .schedule fun first =>
        match first with
        | true => step call fun answer => next answer (step other continuation)
        | false =>
            step other fun answer =>
              beside call next alone (continuation answer)

/-- Run two programs side by side and take both values. -/
def both : Program α → Program β → Program (α × β)
  | done value, other => other.andThen fun second => done (value, second)
  | step call next, other =>
      beside call (fun answer rest => both (next answer) rest)
        (fun second =>
          step call fun answer =>
            (next answer).andThen fun first => done (first, second))
        other

/-- Run programs side by side and take all values in their order. -/
def gather : List (Program α) → Program (List α)
  | [] => done []
  | program :: rest =>
      (both program (gather rest)).andThen fun values =>
        done (values.1 :: values.2)

/-- Answer the calls of a program one after another. -/
def run
    {World : Type}
    (answer : World → (call : Call) → call.Answer × World)
    (world : World) :
    Program α → α × World
  | done value => (value, world)
  | step call next =>
      let answered := answer world call
      (next answered.1).run answer answered.2

theorem andThen_done
    (program : Program α) :
    program.andThen done = program := by
  induction program with
  | done value => rfl
  | step call next inductionHypothesis =>
      simp only [andThen]
      congr 1
      funext answer
      exact inductionHypothesis answer

theorem andThen_assoc
    (program : Program α)
    (first : α → Program β)
    (second : β → Program γ) :
    (program.andThen first).andThen second =
      program.andThen fun value => (first value).andThen second := by
  induction program with
  | done value => rfl
  | step call next inductionHypothesis =>
      simp only [andThen]
      congr 1
      funext answer
      exact inductionHypothesis answer

instance : LawfulMonad Program :=
  LawfulMonad.mk' Program
    (fun program => andThen_done program)
    (fun _ _ => rfl)
    andThen_assoc

end Program

end Montage
