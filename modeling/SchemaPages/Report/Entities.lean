import SchemaPages.Html.Builder
import SchemaPages.Page.Plugin

/-!
The reports: which names have pages, the documents of given names, and what the pages need besides.
Every report has a form in JSON, where a part that is absent is left out.
-/

namespace SchemaPages.Report

open Json (Value)
open Page (Document)

structure TypeEntry where
  name : String
  kind : String
  renderable : Bool
  root : Option String
deriving DecidableEq

structure EntityList where
  types : List TypeEntry
  directives : List String
deriving DecidableEq

structure RenderedEntity where
  name : String
  documents : List Document
deriving DecidableEq

/-- The headers and the files of the pages, or the reason why there are none. -/
structure AssetReport where
  enabled : Bool
  headers : List String
  assets : List String
  notice : Option String
deriving DecidableEq

def disabledNotice : String := "assets are disabled (enableAssets = false)"

/-- A member that is left out if it is absent. -/
def optionalMember (key : String) : Option String → List (String × Value)
  | none => []
  | some text => [(key, .str text)]

def TypeEntry.encode (entry : TypeEntry) : Value :=
  .obj <|
    [("name", .str entry.name), ("kind", .str entry.kind),
      ("renderable", .bool entry.renderable)] ++
    optionalMember "root" entry.root

def EntityList.encode (list : EntityList) : Value :=
  .obj [
    ("types", .arr (list.types.map TypeEntry.encode)),
    ("directives", .arr (list.directives.map Value.str))]

def RenderedEntity.encode (entity : RenderedEntity) : Value :=
  .obj [
    ("name", .str entity.name),
    ("documents", .arr (entity.documents.map Document.encode))]

def encodeRendered (entities : List RenderedEntity) : Value :=
  .arr (entities.map RenderedEntity.encode)

def AssetReport.encode (report : AssetReport) : Value :=
  .obj <|
    [("enabled", .bool report.enabled),
      ("headers", .arr (report.headers.map Value.str)),
      ("assets", .arr (report.assets.map Value.str))] ++
    optionalMember "notice" report.notice

end SchemaPages.Report
