import RoadAtlas.Json.Write
import RoadAtlas.Schema.Issue

/-!
# Responses

A response is a status, a content type (empty when there is none), extra headers, and a body
that is JSON or text. The service answers in a few fixed forms:

* JSON with `application/json`;
* a refusal: `{"detail": message}` as JSON with its status;
* plain text with `text/plain; charset=utf-8`, and XML with `text/xml; charset=utf-8`;
* a redirect: status 307, no content type, a `location` header and no body;
* an unexpected failure: 500 with the plain text `Internal Server Error`;
* invalid request fields: 422 with a JSON detail listing, for each issue, its location and its
  code.

## Main definitions

* `Http.Body`, `Http.Response` and the forms above.
-/

namespace RoadAtlas

namespace Http

/-- The body of a response. -/
inductive Body where
  | json (j : Json)
  | text (s : String)

/-- A response. -/
structure Response where
  status : Nat
  contentType : String
  headers : List (String × String)
  body : Body

namespace Response

/-- An unexpected failure. -/
def internalError : Response := ⟨500, "text/plain; charset=utf-8", [], .text "Internal Server Error"⟩

/-- A JSON response; a value that cannot be sent as UTF-8 fails as an unexpected failure. -/
def json (status : Nat) (j : Json) : Response :=
  if j.encodable then ⟨status, "application/json", [], .json j⟩ else internalError

/-- A refusal with a message. -/
def detail (status : Nat) (message : String) : Response :=
  json status (.obj [("detail", .str message)])

/-- A plain text response. -/
def plain (status : Nat) (s : String) : Response :=
  ⟨status, "text/plain; charset=utf-8", [], .text s⟩

/-- An XML document with extra headers. -/
def xml (s : String) (headers : List (String × String)) : Response :=
  ⟨200, "text/xml; charset=utf-8", headers, .text s⟩

/-- A temporary redirect to a location. -/
def redirect (location : String) : Response := ⟨307, "", [("location", location)], .text ""⟩


/-- The location of an issue as JSON: keys as text, positions as numbers. -/
def issueLocation (i : Issue) : Json :=
  .arr (i.path.map fun s => match s with
    | .key name => .str name
    | .index n => .int n)

/-- Invalid request fields. -/
def invalid (issues : List Issue) : Response :=
  json 422 (.obj [("detail", .arr (issues.map fun i =>
    .obj [("type", .str i.kind.code), ("loc", issueLocation i)]))])

/-- No route for the path. -/
def notFound : Response := detail 404 "Not Found"

/-- A route for the path, but not for the method. -/
def methodNotAllowed : Response := detail 405 "Method Not Allowed"

end Response

end Http

end RoadAtlas
