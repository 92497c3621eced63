import RoadAtlas.Http.Url

/-!
# Routes

A route is a method and a path pattern: literal segments and named parameters, each parameter
standing for one non-empty segment. A route for `GET` also answers `HEAD`. Routing a decoded
path tries the routes in order:

* the first route whose pattern and method match is taken, with its parameters;
* otherwise, if some route matches the pattern only, the method is not allowed;
* otherwise, if the path ends with `/` and, without its trailing slashes, matches some route's
  pattern, the client is redirected there;
* otherwise nothing is found.

## Main definitions

* `Http.Segment`, `Http.Route`, `Http.Routed`, `Http.route`.
-/

namespace RoadAtlas

namespace Http

/-- One segment of a path pattern. -/
inductive Segment where
  | literal (text : String)
  | param (name : String)

/-- A method and a path pattern, leading to an endpoint of type `α`. -/
structure Route (α : Type) where
  method : String
  pattern : List Segment
  endpoint : α

/-- The parameters of a path that matches a pattern, segment by segment. -/
def matchSegments : List Segment → List String → Option (List (String × String))
  | [], [] => some []
  | .literal t :: ps, s :: ss => if t = s then matchSegments ps ss else none
  | .param name :: ps, s :: ss =>
    if s.isEmpty then none else (matchSegments ps ss).map ((name, s) :: ·)
  | _, _ => none

/-- The parameters of a path that matches a pattern; the path starts with `/`. -/
def matchPath (pattern : List Segment) (path : String) : Option (List (String × String)) :=
  match path.splitOn "/" with
  | "" :: segments => matchSegments pattern segments
  | _ => none

/-- Whether a route answers a method. -/
def allows {α : Type} (r : Route α) (method : String) : Bool :=
  r.method == method || (r.method == "GET" && method == "HEAD")

/-- Where routing leads. -/
inductive Routed (α : Type) where
  | found (endpoint : α) (params : List (String × String))
  | wrongMethod
  | redirect (path : String)
  | notFound

/-- A path without its trailing slashes. -/
def trimSlashes (path : String) : String :=
  String.ofList ((path.toList.reverse.dropWhile (· = '/')).reverse)

/-- Routes a method and a decoded path. -/
def route {α : Type} (routes : List (Route α)) (method path : String) : Routed α :=
  let candidates := routes.filterMap fun r => (matchPath r.pattern path).map (r, ·)
  match candidates.find? (fun (r, _) => allows r method) with
  | some (r, params) => .found r.endpoint params
  | none =>
    if !candidates.isEmpty then .wrongMethod
    else if path ≠ "/" ∧ path.endsWith "/" ∧
        routes.any (fun r => (matchPath r.pattern (trimSlashes path)).isSome) then
      .redirect (trimSlashes path)
    else .notFound

end Http

end RoadAtlas
