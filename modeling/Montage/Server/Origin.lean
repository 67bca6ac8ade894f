import Montage.Server.Message

namespace Montage

/-!
# Origins

Pages of other origins may use the server if its settings allow their origin. A
browser asks beforehand whether it may send a request that is not plain.
-/

/-- Which origins may use the server. -/
structure OriginPolicy where
  allowsAll : Bool := false
  origins : List String := []

namespace OriginPolicy

/-- The policy of a list of origins; a star allows all of them. -/
def ofOrigins (origins : List Json) : OriginPolicy where
  allowsAll := origins.any fun origin => origin.text? == some "*"
  origins := origins.filterMap Json.text?

/-- Whether an origin may use the server. -/
def allows
    (policy : OriginPolicy)
    (origin : String) :
    Bool :=
  policy.allowsAll || policy.origins.contains origin

/-- The name of the header that allows an origin. -/
def allowanceName : String :=
  "access-control-allow-origin"

/-- The origin that an answer allows, if the request tells its origin. -/
def allowance?
    (policy : OriginPolicy)
    (request : HttpRequest) :
    Option String :=
  (request.header? "origin").bind fun origin =>
    if policy.allowsAll then
      some (if (request.header? "cookie").isSome then origin else "*")
    else if policy.allows origin then
      some origin
    else
      none

/-- Add the allowance of an origin to an answer, unless the answer has none. -/
def admitResponse
    (policy : OriginPolicy)
    (request : HttpRequest)
    (response : HttpResponse) :
    HttpResponse :=
  match response.admitsOrigins, policy.allowance? request with
  | true, some value => response.withHeader allowanceName value
  | _, _ => response

/-- The methods that pages of other origins may use. -/
def methods : List String :=
  ["DELETE", "GET", "HEAD", "OPTIONS", "PATCH", "POST", "PUT"]

/-- What a browser asks beforehand: its origin and the method it will use. -/
def question? (request : HttpRequest) : Option (String × String) :=
  if request.method = "OPTIONS" then
    match request.header? "origin",
        request.header? "access-control-request-method" with
    | some origin, some method => some (origin, method)
    | _, _ => none
  else
    none

/-- What is not allowed about a question. -/
def refusals
    (policy : OriginPolicy)
    (origin method : String) :
    List String :=
  (if policy.allows origin then [] else ["origin"]) ++
    if methods.contains method then [] else ["method"]

/-- The allowance in the answer to a question. -/
def questionAllowance?
    (policy : OriginPolicy)
    (origin : String) :
    Option String :=
  if policy.allowsAll then
    some "*"
  else if policy.allows origin then
    some origin
  else
    none

/-- The answer to a question. -/
def answerQuestion
    (policy : OriginPolicy)
    (origin method : String) :
    HttpResponse :=
  let refused := policy.refusals origin method
  let response :=
    if refused.isEmpty then
      HttpResponse.ofText 200 "OK"
    else
      HttpResponse.ofText 400 ("Disallowed CORS " ++ ", ".intercalate refused)
  match policy.questionAllowance? origin with
  | some value => response.withHeader allowanceName value
  | none => response

end OriginPolicy

end Montage
