import RoadAtlas.Dict
import RoadAtlas.Number.Binary64
import RoadAtlas.Number.Rounding
import RoadAtlas.Number.Extended
import RoadAtlas.Number.Shortest
import RoadAtlas.Number.IntegerText
import RoadAtlas.Text.Classes
import RoadAtlas.Text.Printable
import RoadAtlas.Text.Surrogate
import RoadAtlas.Text.Quoted
import RoadAtlas.Failure
import RoadAtlas.Text.Utf8
import RoadAtlas.Json.Value
import RoadAtlas.Json.Read
import RoadAtlas.Json.Write
import RoadAtlas.Json.Display
import RoadAtlas.Osm.Coordinate
import RoadAtlas.Schema.Issue
import RoadAtlas.Time.Civil
import RoadAtlas.Time.Timestamp
import RoadAtlas.Time.Read
import RoadAtlas.Schema.Field
import RoadAtlas.Osm.Entity
import RoadAtlas.Osm.Entity.Read
import RoadAtlas.Osm.Bounds
import RoadAtlas.Service.PathParam
import RoadAtlas.Survey.Existence
import RoadAtlas.Xml.Element
import RoadAtlas.Osm.Document
import RoadAtlas.Text.Cased
import RoadAtlas.Text.Case
import RoadAtlas.Shape.Problem
import RoadAtlas.Shape.Real
import RoadAtlas.Shape.Array
import RoadAtlas.Shape.Check
import RoadAtlas.Survey.Row
import RoadAtlas.Survey.Collection
import RoadAtlas.Http.Url
import RoadAtlas.Http.Response
import RoadAtlas.Http.Route
import RoadAtlas.Service.Changeset
import RoadAtlas.Service.Backend
import RoadAtlas.Service.App
import RoadAtlas.Store.Numeral
import RoadAtlas.Store.Cell
import RoadAtlas.Store.Database
import RoadAtlas.Time.Iso
import RoadAtlas.Store.Client
import RoadAtlas.Store.Session
import RoadAtlas.Proofs.FirstSeen
import RoadAtlas.Proofs.Gather
import RoadAtlas.Proofs.Document
import RoadAtlas.Proofs.Grouping
import RoadAtlas.Proofs.XmlReader
import RoadAtlas.Proofs.XmlText
import RoadAtlas.Proofs.DocumentText
import RoadAtlas.Proofs.Tagging
import RoadAtlas.Proofs.StoreInsert
import RoadAtlas.Proofs.ChangesetTransaction
import RoadAtlas.Proofs.GeometryResponse
import RoadAtlas.Proofs.Rounding
import RoadAtlas.Proofs.CoordinateText
import RoadAtlas.Proofs.Nearest
import RoadAtlas.Proofs.Degrees
import RoadAtlas.Proofs.BoundingBox
import RoadAtlas.Proofs.Calendar
import RoadAtlas.Proofs.TimestampText
import RoadAtlas.Proofs.IntegerLiteral
import RoadAtlas.Proofs.PathIds
import RoadAtlas.Proofs.WayBox
import RoadAtlas.Proofs.CellOrder
import RoadAtlas.Proofs.WayQuery
