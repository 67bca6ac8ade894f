import Montage.Json.Value
import Montage.Number.Digits
import Montage.Text.Quoted

namespace Montage

/-!
# Signatures

An operation takes values by place and values by name. Its signature tells
which names there are and which of them have to be given; values that do not
fit are refused, a name before the number of places, and that before values
that lack.
-/

/-- The parameters of an operation. -/
structure Signature where
  operation : String
  /-- The parameter that is bound before any value is given. -/
  receiver : String := "self"
  /-- Parameters that are filled by place or by name. -/
  placed : List String
  /-- How many of those have to be given. -/
  required : Nat := 0
  /-- Parameters that are filled by name only. -/
  named : List String := []

/-- Why values do not fit a signature. -/
inductive ArgumentError
  | unexpected (operation name : String)
  | repeated (operation name : String)
  | tooMany (operation : String) (least most given named : Nat)
  | missing (operation : String) (names : List String)
deriving DecidableEq, Repr

namespace ArgumentError

/-- Names in a sentence, the last one after a conjunction. -/
def enumerated : List String → String
  | [] => ""
  | [name] => quoted name
  | [first, second] => quoted first ++ " and " ++ quoted second
  | names =>
      ", ".intercalate (names.dropLast.map quoted) ++ ", and " ++
        quoted (names.getLastD "")

/-- The ending of a noun for a number of things. -/
def pluralEnding (count : Nat) : String :=
  if count = 1 then "" else "s"

/-- How many values an operation takes. -/
def placesText (least most : Nat) : String :=
  if least < most then
    "from " ++ showNatural least ++ " to " ++ showNatural most ++
      " positional arguments"
  else
    showNatural most ++ " positional argument" ++ pluralEnding most

/-- What follows the number of values that were given by place, besides those
that can be given by name only. -/
def givenText (given named : Nat) : String :=
  if named = 0 then
    if given = 1 then " was" else " were"
  else
    " positional argument" ++ pluralEnding given ++ " (and " ++
      showNatural named ++ " keyword-only argument" ++ pluralEnding named ++
      ") were"

/-- The text of an argument error. -/
def message : ArgumentError → String
  | unexpected operation name =>
      operation ++ "() got an unexpected keyword argument '" ++ name ++ "'"
  | repeated operation name =>
      operation ++ "() got multiple values for argument '" ++ name ++ "'"
  | tooMany operation least most given named =>
      operation ++ "() takes " ++ placesText least most ++ " but " ++
        showNatural given ++ givenText given named ++ " given"
  | missing operation names =>
      operation ++ "() missing " ++ showNatural names.length ++
        " required positional argument" ++ pluralEnding names.length ++ ": " ++
        enumerated names

end ArgumentError

namespace Signature

/-- A name is one of the signature's and not filled by place already. -/
def checkName
    (signature : Signature)
    (filled : List String)
    (name : String) :
    Except ArgumentError Unit :=
  if filled.contains name then
    .error (.repeated signature.operation name)
  else if (signature.placed ++ signature.named).contains name then
    .ok ()
  else
    .error (.unexpected signature.operation name)

/-- There are not more values than places; the receiver takes a place. -/
def checkCount
    (signature : Signature)
    (values : List Json)
    (named : Fields) :
    Except ArgumentError Unit :=
  if values.length ≤ signature.placed.length then
    .ok ()
  else
    .error
      (.tooMany signature.operation (signature.required + 1)
        (signature.placed.length + 1) (values.length + 1)
        (named.countP fun value => signature.named.contains value.1))

/-- Every parameter that has to be given is given. -/
def checkRequired
    (signature : Signature)
    (given : List String) :
    Except ArgumentError Unit :=
  match
    (signature.placed.take signature.required).filter (!given.contains ·)
  with
  | [] => .ok ()
  | names => .error (.missing signature.operation names)

/-- Bind values to the parameters of a signature. -/
def bind
    (signature : Signature)
    (values : List Json)
    (named : Fields) :
    Except ArgumentError Fields := do
  let byPlace := signature.placed.zip values
  let filled := signature.receiver :: byPlace.map Prod.fst
  (named.map Prod.fst).forM (signature.checkName filled)
  signature.checkCount values named
  let bound := byPlace ++ named
  signature.checkRequired (bound.map Prod.fst)
  pure bound

end Signature

end Montage
