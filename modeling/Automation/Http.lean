import Automation.Archive
import Automation.Blueprint.Document
import Automation.Json.Printer

/-!
This module contains the web interface of the composer: what each request answers, and what it
leaves in the archive.
-/

namespace Automation.Http

inductive Request where
  | compose (body : Json)
  | recompose (id : RecordId)
  | validate (body : Json)
  | summary (id : RecordId)
  | artifact (id : RecordId)
  | graph (id : RecordId)
  | report (id : RecordId)
  | catalog
  | health
  deriving Repr, DecidableEq

structure Response where
  status : Nat
  body : Json
  deriving Repr, DecidableEq

structure Application where
  tuning : Tuning
  catalog : Except Catalog.Failure Catalog
  environment : String := "dev"
  artifactDir : String
  now : Json
  deriving Repr

inductive ErrorKind where
  | invalidBlueprint
  | longDescription
  | closedBlueprint
  | noCatalog
  | general
  deriving Repr, DecidableEq

namespace ErrorKind

def all : List ErrorKind :=
  [invalidBlueprint, longDescription, closedBlueprint, noCatalog, general]

def name : ErrorKind → String
  | invalidBlueprint => "BlueprintValidationError"
  | longDescription => "DescriptionTooLongError"
  | closedBlueprint => "BlueprintStateError"
  | noCatalog => "CatalogLoadError"
  | general => "ComposerError"

def status : ErrorKind → Nat
  | invalidBlueprint => 422
  | longDescription => 413
  | closedBlueprint => 409
  | noCatalog => 503
  | general => 400

def ofName? (name : String) : Option ErrorKind :=
  all.find? (·.name == name)

end ErrorKind

inductive BodyFault where
  | missing
  | notText
  | notFields
  | notObject
  deriving Repr, DecidableEq

def BodyFault.name : BodyFault → String
  | missing => "missing"
  | notText => "string_type"
  | notFields => "model_attributes_type"
  | notObject => "dict_type"

namespace Response

def ok (body : Json) : Response :=
  ⟨200, body⟩

def unprocessable (faults : List (List String × BodyFault)) : Response :=
  ⟨422, .object [("detail", .array (faults.map fun (path, fault) =>
    .object [
      ("loc", .array (("body" :: path).map fun (s : String) => .string s)),
      ("type", .string fault.name)
    ]))]⟩

def notFound (detail : String) : Response :=
  ⟨404, .object [("detail", .string detail)]⟩

def unknownRecord (id : RecordId) : Response :=
  notFound ("Blueprint " ++ id.text ++ " not found")

def failed (message : Text) : Response :=
  ⟨500, .object [
    ("error", "InternalServerError"),
    ("message", .string message),
    ("remediation", "Retry the request; report the blueprint id if the failure persists")
  ]⟩

def bodyFault? (body : Json) : Option Fault :=
  if body.isFinite then
    match body.compact.encoded with
    | .ok _ => none
    | .error f => some f
  else
    some .unsendableNumber

def sent (r : Response) : Response :=
  -- An answer that cannot be sent gives way to one that says why.
  match bodyFault? r.body with
  | some f => failed f.message
  | none => r

def refused (kind : ErrorKind) (message : Text) (more : Fields) : Response :=
  let told : Fields := [("error", .string kind.name), ("message", .string message)]
  ⟨kind.status, .object (told ++ more)⟩

def noCatalog : Catalog.Failure → Response
  | .fault f => failed f.message
  | f => refused .noCatalog f.message []

def tooLong (limit : Int) : Response :=
  refused .longDescription ("Description exceeds " ++ toString limit ++ " characters") []

def ofFailure : Compilation.Failure → Response
  | .invalid errors =>
    refused .invalidBlueprint (invalidMessage errors) [("errors", .array (errors.map .string))]
  | .refused (.closed stage) => refused .closedBlueprint (Refusal.closed stage).message []
  | f => failed f.message

def ofErrors (errors : List Text) : Response :=
  ok (.object [("valid", .bool errors.isEmpty), ("errors", .array (errors.map .string))])

end Response

namespace Application

def artifactRef (app : Application) (r : Archive.Record) : Json :=
  match r.file with
  | some name => .string ("file://" ++ app.artifactDir ++ "/" ++ name)
  | none => .null

def summary (app : Application) (r : Archive.Record) : Json :=
  .object [
    ("id", .string r.id.text),
    ("name", r.name),
    ("description", .string r.description),
    ("status", .string r.status.name),
    ("moduleCount", .int r.moduleCount),
    ("catalogVersion", .string r.catalogVersion),
    ("artifactRef", app.artifactRef r),
    ("errors", .array (r.errors.map .string)),
    ("createdAt", app.now),
    ("updatedAt", app.now)
  ]

def created (app : Application) (r : Archive.Record) : Response :=
  match r.status with
  | .composed => ⟨201, app.summary r⟩
  | .rejected => ⟨ErrorKind.invalidBlueprint.status, .object [
      ("error", .string ErrorKind.invalidBlueprint.name),
      ("errors", .array (r.errors.map .string)),
      ("id", .string r.id.text)
    ]⟩

def compose (app : Application) (archive : Archive) (catalog : Catalog) (description : String)
    (name : Json) : Archive × Response :=
  if app.tuning.maxDescriptionChars < description.length then
    (archive, .tooLong app.tuning.maxDescriptionChars)
  else
    match archive.compose app.tuning catalog description name with
    | (archive, .ok record) => (archive, app.created record)
    | (archive, .error f) => (archive, .ofFailure f)

def textFaults (fields : Fields) (name : String) : List (List String × BodyFault) :=
  match fields.get? name with
  | none => [([name], .missing)]
  | some (.string _) => []
  | some _ => [([name], .notText)]

def optionalTextFaults (fields : Fields) (name : String) : List (List String × BodyFault) :=
  match fields.getD name .null with
  | .null => []
  | .string _ => []
  | _ => [([name], .notText)]

def readCompose : Json → Except (List (List String × BodyFault)) (Text × Json)
  | .object fields =>
    match textFaults fields "description" ++ optionalTextFaults fields "name" with
    | [] => .ok ((Fields.getD fields "description" "").text, Fields.getD fields "name" .null)
    | faults => .error faults
  | .null => .error [([], .missing)]
  | _ => .error [([], .notFields)]

def withCatalog (app : Application) (archive : Archive)
    (answer : Catalog → Archive × Response) : Archive × Response :=
  -- The catalog is looked at before anything else.
  match app.catalog with
  | .ok catalog => answer catalog
  | .error f => (archive, .noCatalog f)

def withRecord (archive : Archive) (id : RecordId) (answer : Archive.Record → Response) :
    Response :=
  match archive.find? id with
  | some r => answer r
  | none => .unknownRecord id

def validate : Json → Response
  | .object fields =>
    match Blueprint.ofDocument (.object fields) with
    | .error m => .ofErrors [.whole ("Malformed blueprint: " ++ m.message)]
    | .ok b =>
      match b.errors with
      | .ok errors => .ofErrors errors
      | .error f => .failed f.message
  | .null => .unprocessable [([], .missing)]
  | _ => .unprocessable [([], .notObject)]

def graphNode (row : Archive.ModuleRow) : Json :=
  .object [
    ("id", .int row.moduleId),
    ("module", row.moduleType),
    ("version", row.version),
    ("order", .int row.order),
    ("routes", match row.routes with
      | .array routes => .int routes.length
      | _ => 0)
  ]

def graphEdge (row : Archive.ConnectionRow) : Json :=
  .object [("source", row.source), ("target", row.target), ("route", row.route)]

def graph (archive : Archive) (id : RecordId) : Response :=
  .ok (.object [
    ("nodes", .array ((archive.modulesOf id).map graphNode)),
    ("edges", .array ((archive.connectionsOf id).map graphEdge))
  ])

mutual

def withoutReserved : Json → Json
  | .array xs => .array (itemsWithoutReserved xs)
  | .object fs => .object (fieldsWithoutReserved fs)
  | v => v

def itemsWithoutReserved : List Json → List Json
  | [] => []
  | x :: xs => withoutReserved x :: itemsWithoutReserved xs

def fieldsWithoutReserved : Fields → Fields
  | [] => []
  | (k, x) :: fs =>
    if (Text.glyphs "_sa").isPrefixOf k.glyphs then fieldsWithoutReserved fs
    else (k, withoutReserved x) :: fieldsWithoutReserved fs

end

def catalogEntry (e : Catalog.Entry) : Json :=
  .object [
    ("module", .string e.moduleType),
    ("version", .int e.version),
    ("label", withoutReserved e.label),
    ("category", .string e.category),
    ("kind", withoutReserved e.kind)
  ]

def catalogListing (catalog : Catalog) : Response :=
  .ok (.object [
    ("version", .string catalog.version),
    ("modules", .array (catalog.sortedEntries.map catalogEntry))
  ])

def prepare (app : Application) (archive : Archive) : Request → Archive × Response
  | .compose body =>
    app.withCatalog archive fun catalog =>
      match readCompose body with
      | .ok (description, name) =>
        match description.encoded with
        | .ok description => app.compose archive catalog description name
        | .error f => (archive, .ofFailure (.fault f))
      | .error faults => (archive, .unprocessable faults)
  | .recompose id =>
    app.withCatalog archive fun catalog =>
      match archive.find? id with
      | some r => app.compose archive catalog r.description r.name
      | none => (archive, .unknownRecord id)
  | .validate body => (archive, validate body)
  | .summary id => (archive, withRecord archive id fun r => .ok (app.summary r))
  | .artifact id => (archive, withRecord archive id fun r =>
      match r.status with
      | .composed => .ok r.artifact
      | .rejected => .notFound "Blueprint was rejected; no artifact")
  | .graph id => (archive, withRecord archive id fun _ => graph archive id)
  | .report id => (archive, withRecord archive id fun r =>
      match r.report with
      | some report => .ok report.toJson
      | none => .notFound "Report not generated")
  | .catalog => app.withCatalog archive fun catalog => (archive, catalogListing catalog)
  | .health => (archive, .ok (.object [
      ("status", "ok"),
      ("environment", .string app.environment)
    ]))

def answer (app : Application) (archive : Archive) (request : Request) : Archive × Response :=
  (app.prepare archive request).map id Response.sent

end Application

end Automation.Http
