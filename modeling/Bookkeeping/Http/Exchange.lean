import Bookkeeping.Json.Reader

/-!
# Requests and responses

What clients send and what they get back.  The body of a request is either a
value, or a text that still has to be read as JSON.
-/

namespace Bookkeeping.Http

/-- The body of a request. -/
inductive Body where
  | absent
  | value (value : Value)
  | text (text : String)

/-- What a client asks for. -/
structure Request where
  method : String
  path : String
  query : List (String × String)
  body : Body

/-- What a client gets back. -/
structure Response where
  status : Nat
  body : Value

namespace Response

/-- A response that gives the reason why a request was not served. -/
def refusal (status : Nat) (detail : Value) : Response where
  status := status
  body := .record [("detail", detail)]

/-- No resource has the path. -/
def notFound : Response :=
  refusal 404 (.text "Not Found")

/-- The resource does not know the method. -/
def methodNotAllowed : Response :=
  refusal 405 (.text "Method Not Allowed")

/-- The body cannot be read. -/
def unreadableBody : Response :=
  refusal 400 (.text "There was an error parsing the body")

/-- Something went wrong that the client is not told about. -/
def internalError : Response where
  status := 500
  body := .text "Internal Server Error"

def record (response : Response) : Value :=
  .record [("status", .int response.status), ("body", response.body)]

end Response

end Bookkeeping.Http
