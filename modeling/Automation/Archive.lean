import Automation.Compilation
import Automation.Digest.Sha256
import Automation.Json.Printer

/-!
This module contains the archive of composed blueprints: a record for each description that was
compiled or rejected, the modules and connections of each blueprint, the files of their documents
and a log of what was done. Nothing in it is ever changed or removed. What cannot be kept fails as a
whole, but for a file that was written before.
-/

namespace Automation

/-- The id of a record: the n-th one that was handed out, or a text that never was. -/
inductive RecordId where
  | issued (n : Nat)
  | foreign (text : String)
  deriving Repr, DecidableEq

namespace RecordId

def text : RecordId → String
  | issued n => "bp-" ++ toString n
  | foreign s => s

end RecordId

namespace Archive

inductive Status where
  | composed
  | rejected
  deriving Repr, DecidableEq

def Status.name : Status → String
  | composed => "Composed"
  | rejected => "Rejected"

structure Record where
  id : RecordId
  name : Json
  description : String
  status : Status
  artifact : Json
  errors : List Text
  report : Option Report
  file : Option String
  catalogVersion : Text
  moduleCount : Nat
  deriving Repr, DecidableEq

structure ModuleRow where
  record : RecordId
  moduleId : Int
  moduleType : Json
  version : Json
  parameters : Fields
  routes : Json
  order : Nat
  deriving Repr, DecidableEq

def ModuleRow.fits (row : ModuleRow) : Bool :=
  -- The version must fit into 64 bits.
  match row.version with
  | .int n => -(twoTo 63 : Int) ≤ n && n < twoTo 63
  | _ => true

structure ConnectionRow where
  record : RecordId
  source : Json
  target : Json
  route : Json
  deriving Repr, DecidableEq

structure AuditRow where
  principal : String
  action : String
  oldValue : Json
  newValue : Json
  deriving Repr, DecidableEq

structure File where
  name : String
  text : String
  deriving Repr, DecidableEq

end Archive

structure Archive where
  issued : Nat
  records : List Archive.Record
  modules : List Archive.ModuleRow
  connections : List Archive.ConnectionRow
  audits : List Archive.AuditRow
  files : List Archive.File
  deriving Repr, DecidableEq

namespace Archive

def empty : Archive :=
  { issued := 0, records := [], modules := [], connections := [], audits := [], files := [] }

def nextId (archive : Archive) : RecordId :=
  .issued (archive.issued + 1)

def find? (archive : Archive) (id : RecordId) : Option Record :=
  archive.records.find? (·.id == id)

def modulesOf (archive : Archive) (id : RecordId) : List ModuleRow :=
  archive.modules.filter (·.record == id)

def connectionsOf (archive : Archive) (id : RecordId) : List ConnectionRow :=
  archive.connections.filter (·.record == id)

def file? (archive : Archive) (name : String) : Option File :=
  archive.files.find? (·.name == name)

def principal : String := "api"

def auditRow (r : Record) : AuditRow :=
  { principal
    action :=
      match r.status with
      | .composed => "blueprint.composed"
      | .rejected => "blueprint.rejected"
    oldValue := .null
    newValue := .object [
      ("blueprintId", .string r.id.text),
      ("status", .string r.status.name)
    ] }

def moduleRow (id : RecordId) (order : Nat) (n : Node) : ModuleRow :=
  { record := id
    moduleId := n.id
    moduleType := n.moduleType
    version := n.version
    parameters := n.parameters
    routes := n.toFields.getD "routes" .null
    order }

def connectionRow (id : RecordId) (c : Connection) : ConnectionRow :=
  { record := id, source := c.source, target := c.target, route := c.route }

def fileOf (document : Json) : File :=
  -- The fields are sorted, and the file is named for its content.
  let text := document.sorted.lines
  { name := Sha256.hex text.toUTF8.toList ++ ".json", text }

def putFile (files : List File) (file : File) : List File :=
  -- A file of the same name has the same content.
  if files.any (·.name == file.name) then files else files ++ [file]

def addRejected (archive : Archive) (name : Json) (description : String) (errors : List Text)
    (catalogVersion : Text) : Archive × Record :=
  let record : Record := {
    id := archive.nextId
    name
    description
    status := .rejected
    artifact := .null
    errors
    report := none
    file := none
    catalogVersion
    moduleCount := 0
  }
  ({ archive with
    issued := archive.issued + 1
    records := archive.records ++ [record]
    audits := archive.audits ++ [auditRow record] }, record)

def addComposed (archive : Archive) (description : String) (blueprint : Blueprint) (artifact : Json)
    (report : Report) (catalogVersion : Text) : Archive × Record :=
  let id := archive.nextId
  let file := fileOf artifact
  let record : Record := {
    id
    name := blueprint.name
    description
    status := .composed
    artifact
    errors := []
    report := some report
    file := some file.name
    catalogVersion
    moduleCount := blueprint.nodes.length
  }
  ({ archive with
    issued := archive.issued + 1
    records := archive.records ++ [record]
    modules := archive.modules ++ blueprint.nodes.mapIdx (moduleRow id)
    connections := archive.connections ++ blueprint.connections.map (connectionRow id)
    audits := archive.audits ++ [auditRow record]
    files := putFile archive.files file }, record)

def keepFile (archive : Archive) (artifact : Json) : Archive :=
  { archive with files := putFile archive.files (fileOf artifact) }

def checkWritable (name artifact : Json) (catalogVersion : Text) : Except Fault Unit := do
  -- Numbers of the document may be too long, and texts of the record may hold halves.
  if !artifact.isWritable then
    throw .unwritableNumber
  let _ ← name.text.encoded
  let _ ← catalogVersion.encoded

/-- What a composition leaves behind and what it answers. One that fails may leave a file behind. -/
abbrev Attempt := Archive × Except Compilation.Failure Record

def orFail (archive : Archive) (r : Except Fault β) (attempt : β → Attempt) : Attempt :=
  match r with
  | .ok b => attempt b
  | .error f => (archive, .error (.fault f))

def keepRejected (archive : Archive) (name : Json) (description : String) (errors : List Text)
    (catalogVersion : Text) : Attempt :=
  archive.orFail (checkWritable name .null catalogVersion) fun _ =>
    (archive.addRejected name description errors catalogVersion).map id .ok

def keepComposed (archive : Archive) (catalog : Catalog) (description : String) (c : Compilation) :
    Attempt :=
  let written : Except Fault (Json × Report) := do
    let artifact ← c.blueprint.toJson
    let report ← c.blueprint.report archive.nextId.text (Resolution.fallbacks c.resolutions)
      (.string catalog.version) 0
    checkWritable c.blueprint.name artifact catalog.version
    return (artifact, report)
  archive.orFail written fun (artifact, report) =>
    -- The rows are written last, when the file is there already.
    if (c.blueprint.nodes.mapIdx (moduleRow archive.nextId)).all ModuleRow.fits then
      (archive.addComposed description c.blueprint artifact report catalog.version).map id .ok
    else
      (archive.keepFile artifact, .error (.fault .wideNumber))

def compose (archive : Archive) (t : Tuning) (catalog : Catalog) (description : String)
    (name : Json) : Attempt :=
  match (compileText t catalog (.int t.sleepSeconds) description name).result with
  | .error (.invalid errors) =>
    archive.keepRejected (Compilation.blueprintName t description name) description errors
      catalog.version
  | .error f => (archive, .error f)
  | .ok c => archive.keepComposed catalog description c

end Archive

end Automation
