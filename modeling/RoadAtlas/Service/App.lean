import RoadAtlas.Service.Backend
import RoadAtlas.Service.PathParam
import RoadAtlas.Http.Route
import RoadAtlas.Json.Read
import RoadAtlas.Survey.Collection
import RoadAtlas.Survey.Existence
import RoadAtlas.Osm.Document
import RoadAtlas.Osm.Entity
import RoadAtlas.Osm.Bounds

/-!
# The road service

The service answers requests over a backend (`Backend`):

* `GET /field/{ids}/geometries` and `…/geometries/flat`: the survey geometries of the road ids,
  grouped by road and source or as one collection (`Survey`); a malformed geometry is refused
  with 400, and non-finite numbers are written as `null`;
* `GET /field/{ids}/exists` and `…/exists/map`: which of the road ids exist (`Existence`);
* `GET /xml/way/{way_id}`, `…/full` and `GET /xml/ways/{way_ids}`: the OSM document of the ways
  with their tags attached (`Document`), 404 when there are none; with the query parameter
  `download` true it comes as the file `way-<ids>.osm`;
* `GET /xml/way/{vpromms_id}/bbox`: the bounding box of the nodes of the way tagged with the
  VProMMs id, in path order, unknown nodes left out;
* `PUT /api/0.6/changeset/create`: a new changeset for the request in the JSON body; a request
  without user id or user name is refused with 400.

Path parameters are checked first (`PathParam`), with 400 for a bad one; then query parameters,
with 422; then the backend is asked. Any other failure is an internal error.

## Main definitions

* `Service.Request`, `Service.RequestBody`.
* `Service.respond`: the response to a request, and the backend calls it made.
-/

namespace RoadAtlas

mutual

/-- A value with every non-finite double replaced by `null`. -/
def Json.finiteOnly : Json → Json
  | .float x => if x.isFinite then .float x else .null
  | .arr items => .arr (Json.finiteItems items)
  | .obj fields => .obj (Json.finiteFields fields)
  | j => j

/-- Items with non-finite doubles replaced by `null`. -/
def Json.finiteItems : List Json → List Json
  | [] => []
  | v :: rest => v.finiteOnly :: Json.finiteItems rest

/-- Members with non-finite doubles replaced by `null`. -/
def Json.finiteFields : List (String × Json) → List (String × Json)
  | [] => []
  | (k, v) :: rest => (k, v.finiteOnly) :: Json.finiteFields rest

end

namespace Service

/-- The body of a request: none, a JSON value, or raw JSON text. -/
inductive RequestBody where
  | none
  | json (j : Json)
  | raw (text : String)

/-- A request: method, target (path and query) and body. -/
structure Request where
  method : String
  target : String
  body : RequestBody

/-- The endpoints of the service. -/
inductive Endpoint where
  | geometries
  | geometriesFlat
  | existence
  | existenceMap
  | way
  | ways
  | bbox
  | changeset

open Http in
/-- The routes, in the order they are tried. -/
def routes : List (Route Endpoint) :=
  [⟨"GET", [.literal "field", .param "ids", .literal "geometries"], .geometries⟩,
   ⟨"GET", [.literal "field", .param "ids", .literal "geometries", .literal "flat"], .geometriesFlat⟩,
   ⟨"GET", [.literal "field", .param "ids", .literal "exists"], .existence⟩,
   ⟨"GET", [.literal "field", .param "ids", .literal "exists", .literal "map"], .existenceMap⟩,
   ⟨"GET", [.literal "xml", .literal "way", .param "way_id"], .way⟩,
   ⟨"GET", [.literal "xml", .literal "way", .param "way_id", .literal "full"], .way⟩,
   ⟨"GET", [.literal "xml", .literal "ways", .param "way_ids"], .ways⟩,
   ⟨"GET", [.literal "xml", .literal "way", .param "vpromms_id", .literal "bbox"], .bbox⟩,
   ⟨"PUT", [.literal "api", .literal "0.6", .literal "changeset", .literal "create"], .changeset⟩]

open Http

/-- A checked parameter, or the refusal it ends in. -/
def accept {α : Type} (r : Except Failure α) : Handler α :=
  match r with
  | .ok a => pure a
  | .error f =>
    match f.kind with
    | .rejected status => throw (Response.detail status f.message)
    | _ => throw Response.internalError

/-- The `download` query parameter: its last value, false when absent. -/
def downloadParam (query : List (String × String)) : Handler Bool :=
  match (query.filter (·.1 == "download")).getLast? with
  | none => pure false
  | some (_, v) =>
    match Field.truthOfText v with
    | .ok b => pure b
    | .error _ => throw (Response.invalid [⟨[.key "query", .key "download"], .boolParsing⟩])

/-- The survey geometries of some roads. -/
def geometries (b : Backend) (flat : Bool) (ids : String) : Handler Response := do
  let roadIds ← accept (PathParam.roadIds ids)
  let rows ← b.getFieldGeometries roadIds
  let gathered := if flat then Survey.flatCollection rows else Survey.groupedCollections rows
  match gathered with
  | .ok j => pure (Response.json 200 j.finiteOnly)
  | .error f =>
    pure (if f.kind = .malformedGeometry then Response.detail 400 f.message
      else Response.internalError)

/-- Which of some road ids exist, as a list or as a map. -/
def existence (b : Backend) (asMap : Bool) (ids : String) : Handler Response := do
  let roadIds ← accept (PathParam.roadIds ids)
  let existing ← b.getExistingRoadIds roadIds
  if asMap then
    pure (Response.json 200 (.arr ((Existence.map existing roadIds).map fun (i, e) =>
      .obj [(i, .bool e)])))
  else pure (Response.json 200 (.arr ((Existence.filter existing roadIds).map .str)))

/-- The text of way ids joined by a separator. -/
def idsText (sep : String) (ids : List Int) : String := sep.intercalate (ids.map toString)

/-- The OSM document of some ways. -/
def wayDocument (b : Backend) (ids : List Int) (download : Bool) : Handler Response := do
  let set ← b.getWays (ids.map .int)
  if set.ways.isEmpty then
    return Response.detail 404 ("Way " ++ idsText ", " ids ++ " not found.")
  let ways := Way.attachTags .way set.ways set.wayTags
  match Document.write Document.defaultGenerator set.nodes ways with
  | .ok text =>
    let headers := if download then
      [("content-disposition", "attachment; filename=\"way-" ++ idsText "-" ids ++ ".osm\"")]
      else []
    pure (Response.xml text headers)
  | .error _ => pure Response.internalError

/-- The bounding box of the way tagged with a VProMMs id. -/
def bbox (b : Backend) (param : String) : Handler Response := do
  let v ← accept (PathParam.vprommsId param)
  match ← b.getWayIdByTagValue v with
  | none => pure (Response.detail 404 ("Way with VProMMs ID " ++ v ++ " not found"))
  | some w =>
    let set ← b.getWays [w]
    let nodes := (set.ways.flatMap Way.nodes).filterMap (Document.lastWithId set.nodes)
    match Box.ofWayNodes (some w.display) nodes with
    | .ok box => pure (Response.json 200 (.obj [(v, .arr (box.toList.map .float))]))
    | .error f =>
      pure (if f.kind = .emptyWay then Response.detail 400 f.message else Response.internalError)

/-- The JSON value of a request body, `none` when there is none. Raw text is read as JSON after
dropping a byte order mark. -/
def bodyValue : RequestBody → Handler (Option Json)
  | .none => pure none
  | .json .null => pure none
  | .json j => pure (some j)
  | .raw text =>
    let text := match text.toList with
      | '﻿' :: rest => String.ofList rest
      | _ => text
    if text.isEmpty then pure none
    else
      match Json.parse text with
      | .ok .null => pure none
      | .ok j => pure (some j)
      | .error (.malformed _ pos) =>
        throw (Response.invalid [⟨[.key "body", .index pos], .jsonInvalid⟩])
      | .error _ => throw (Response.detail 400 "There was an error parsing the body")

/-- A new changeset. -/
def changeset (b : Backend) (body : RequestBody) : Handler Response := do
  let request ← match ← bodyValue body with
    | none => throw (Response.invalid [⟨[.key "body"], .missing⟩])
    | some j =>
      match Checked.under (.key "body") (ChangesetRequest.read j) with
      | .ok r => pure r
      | .error issues => throw (Response.invalid issues)
  if request.isAnonymous then
    return Response.detail 400 "A new changeset must include a user id and a username."
  let id ← b.createChangeset request
  pure (Response.plain 200 id.display)

/-- The answer of an endpoint. -/
def endpoint (b : Backend) (req : Request) (query : List (String × String))
    (params : List (String × String)) : Endpoint → Handler Response
  | .geometries => geometries b false ((params.lookup "ids").getD "")
  | .geometriesFlat => geometries b true ((params.lookup "ids").getD "")
  | .existence => existence b false ((params.lookup "ids").getD "")
  | .existenceMap => existence b true ((params.lookup "ids").getD "")
  | .way => do
    let id ← accept (PathParam.wayId ((params.lookup "way_id").getD ""))
    wayDocument b [id] (← downloadParam query)
  | .ways => do
    let ids ← accept (PathParam.wayIds ((params.lookup "way_ids").getD ""))
    wayDocument b ids (← downloadParam query)
  | .bbox => bbox b ((params.lookup "vpromms_id").getD "")
  | .changeset => changeset b req.body

/-- Characters a query keeps unescaped: unreserved ones and `!$&'()*+,;=:?[]@/`. -/
def queryKeeps (c : Char) : Bool := unreserved c || "!$&'()*+,;=:?[]@/".contains c

/-- A query with every character that may not stand in it escaped; escapes stay. -/
def normalizeQuery (query : List Char) : List Char :=
  match query with
  | [] => []
  | '%' :: a :: b :: rest =>
    if (hexValue? a).isSome ∧ (hexValue? b).isSome then '%' :: a :: b :: normalizeQuery rest
    else "%25".toList ++ normalizeQuery (a :: b :: rest)
  | c :: rest =>
    if queryKeeps c then c :: normalizeQuery rest
    else (percentEncode (fun _ => false) c.toString).toList ++ normalizeQuery rest

/-- The query a client sends for the query of a target: as it is when every character may stand
in a query or is `%`, and otherwise with the others escaped (`normalizeQuery`). -/
def sentQuery (query : List Char) : List Char :=
  if query.all fun c => queryKeeps c || c = '%' then query else normalizeQuery query

/-- Characters a redirect location keeps unescaped. -/
def locationKeeps (c : Char) : Bool := unreserved c || ":/%#?=@[]!$&'()*+,;".contains c

/-- The location of a redirect to a path, keeping the query. -/
def location (path query : String) : String :=
  let q := String.ofList (sentQuery query.toList)
  percentEncode locationKeeps
    ("http://testserver" ++ path ++ (if q.isEmpty then "" else "?" ++ q))

/-- The path and the query of a target; a fragment is dropped. -/
def splitTarget (target : String) : String × String :=
  let noFragment := (target.splitOn "#").headD ""
  match noFragment.splitOn "?" with
  | [] => ("", "")
  | [path] => (path, "")
  | path :: rest => (path, "?".intercalate rest)

/-- The response to a request, and the backend calls made for it in order. -/
def respond (b : Backend) (req : Request) : Response × List Call :=
  let (rawPath, query) := splitTarget req.target
  let path := percentDecode (percentDecode rawPath)
  match route routes req.method.toUpper path with
  | .found e params =>
    let (result, calls) := ((endpoint b req (queryFields query) params e).run).run []
    match result with
    | .ok r => (r, calls)
    | .error r => (r, calls)
  | .wrongMethod => (Response.methodNotAllowed, [])
  | .redirect p => (Response.redirect (location p query), [])
  | .notFound => (Response.notFound, [])

end Service

end RoadAtlas
