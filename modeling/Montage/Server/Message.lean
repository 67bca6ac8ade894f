import Montage.Json.Access
import Montage.Text.Blank
import Montage.Text.Split
import Montage.Text.Utf8

namespace Montage

/-!
# Messages

What a client sends and what it is answered.
-/

/-- A request of a client. -/
structure HttpRequest where
  method : String
  /-- The path with its escapes, and possibly a query. -/
  target : String
  /-- Headers by their names in lower case. -/
  headers : List (String × String) := []
  body : String := ""

/-- The body of an answer. -/
inductive HttpBody
  | json (value : Json)
  | bytes (content : Bytes)

/-- An answer. -/
structure HttpResponse where
  status : Nat
  headers : List (String × String) := []
  body : HttpBody
  /-- Whether pages of other origins may be allowed to read it. -/
  admitsOrigins : Bool := true

namespace HttpRequest

/-- A header. -/
def header?
    (request : HttpRequest)
    (name : String) :
    Option String :=
  getField? name request.headers

/-- The type of the body without parameters, in lower case. -/
def bodyType (request : HttpRequest) : String :=
  let value := ((request.header? "content-type").getD "").toList
  String.ofList ((trim (beforeChar ';' value)).map Char.toLower)

/-- Whether the body is said to be JSON. -/
def hasJsonBody (request : HttpRequest) : Bool :=
  match splitAtChar '/' request.bodyType.toList with
  | [main, detail] =>
      main == "application".toList &&
        (detail == "json".toList || "+json".toList.isSuffixOf detail)
  | _ => false

end HttpRequest

namespace HttpResponse

/-- An answer in JSON. -/
def ofJson (status : Nat) (value : Json) : HttpResponse where
  status := status
  headers := [("content-type", "application/json")]
  body := .json value

/-- An answer that tells one detail. -/
def detail (status : Nat) (text : String) : HttpResponse :=
  ofJson status (.object [("detail", .text text)])

/-- An answer with a text. -/
def ofText (status : Nat) (text : String) : HttpResponse where
  status := status
  headers := [("content-type", "text/plain; charset=utf-8")]
  body := .bytes (bytesOf text)

/-- An answer without a body. -/
def empty (status : Nat) : HttpResponse where
  status := status
  body := .bytes []

/-- The answer without its body, as it is given to a request for the head. -/
def withoutBody (response : HttpResponse) : HttpResponse :=
  { response with body := .bytes [] }

/-- Add a header. -/
def withHeader
    (response : HttpResponse)
    (name value : String) :
    HttpResponse :=
  { response with headers := response.headers ++ [(name, value)] }

/-- There is nothing at the path. -/
def notFound : HttpResponse :=
  detail 404 "Not Found"

/-- The path is not made for the method. -/
def methodNotAllowed : HttpResponse :=
  detail 405 "Method Not Allowed"

end HttpResponse

end Montage
