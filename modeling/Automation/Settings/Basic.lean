import Automation.Json.Reader
import Automation.Settings.Tuning
import Automation.Text.Case

/-!
This module contains the settings of the composer and how they are read from environment variables.
A variable is named for a group of settings, which it holds as a document, or for a group and a
setting with two low lines between them; case does not count.
-/

namespace Automation

structure Settings where
  tuning : Tuning := {}
  catalogPath : Option Text := none
  serviceName : Text := "blueprint-composer"
  exporterEndpoint : Option Text := none
  logLevel : Text := "INFO"
  databaseUrl : Text := "sqlite+aiosqlite:///./composer.db"
  artifactDir : Text := "./.artifacts"
  s3Endpoint : Option Text := none
  s3Region : Option Text := none
  s3Bucket : Option Text := none
  environment : String := "dev"
  deriving Repr, DecidableEq

namespace Settings

inductive Failure where
  | wrong (details : List Detail)
  | unreadable (group : String)
  | fault (fault : Fault)
  deriving Repr, DecidableEq

namespace Failure

def message : Failure → String
  | wrong details => ", ".intercalate (details.map fun d => ".".intercalate d.path)
  | unreadable group =>
    "error parsing value for field \"" ++ group ++ "\" from source \"EnvSettingsSource\""
  | fault f => f.message

end Failure

def variableStart : String := "COMPOSER_"

def groups : List (String × List String) := [
  ("tuning", ["layout_spacing", "default_name", "default_description", "name_word_limit",
    "sleep_seconds", "route_field_source", "max_description_chars"]),
  ("catalog", ["path"]),
  ("observability", ["otel_service_name", "otel_exporter_otlp_endpoint", "log_level"]),
  ("storage", ["database_url", "artifact_dir", "s3_endpoint", "s3_region", "s3_bucket"])
]

def variableNames : List String :=
  groups.flatMap (fun (group, names) =>
    group.toUpper :: names.map fun name => group.toUpper ++ "__" ++ name.toUpper) ++
  ["ENVIRONMENT"]

def byLowerName (env : List (String × String)) : List (String × String) :=
  -- Of variables with equal names the last one counts.
  env.foldl (fun found (name, value) => put found (toLowerCase name) value) []
where
  put : List (String × String) → String → String → List (String × String)
    | [], name, value => [(name, value)]
    | (k, v) :: vs, name, value =>
      if k = name then (k, value) :: vs else (k, v) :: put vs name value

def splitPairs (cs : List Char) : List (List Char) :=
  go [] cs
where
  go (part : List Char) : List Char → List (List Char)
    | [] => [part.reverse]
    | '_' :: '_' :: cs => part.reverse :: go [] cs
    | c :: cs => go (c :: part) cs

def setNested (fields : Fields) (path : List String) (value : String) : Fields :=
  -- A deeper name only makes its field a group.
  match path with
  | [] => fields
  | [name] => fields.put name (.string value)
  | name :: _ => if fields.has name then fields else fields.put name (.object [])

def nestedFields (group : String) (env : List (String × String)) : Fields :=
  env.foldl (fun fields (name, value) =>
    match splitPairs name.toList with
    | first :: second :: rest =>
      if String.ofList first = group then
        setNested fields ((second :: rest).map String.ofList) value
      else fields
    | _ => fields) []

def withSettingNames (group : String) (fields : Fields) : Fields :=
  -- The last field of a setting counts.
  let names := (groups.lookup group).getD []
  let spells (name : String) (key : Text) : Bool :=
    key.whole?.any fun key => toLowerCase name = toLowerCase key
  Fields.ofPairs (fields.map fun (k, v) =>
    (((names.find? fun name => spells name k).map Text.whole).getD k, v))

def groupValue (env : List (String × String)) (group : String) : Except Failure Json := do
  let nested := nestedFields group env
  match env.lookup group with
  -- A group that is null counts as absent, with all that belongs to it.
  | none => return .object (withSettingNames group nested)
  | some text =>
    match Json.ofText text with
    | .ok (.object given) => return .object (withSettingNames group (Fields.merge given nested))
    | .ok .null => return .object []
    | .ok v => return v
    | .error (.excess (.tooDeep within)) => throw (.fault (.tooDeep within))
    | .error _ => throw (.unreadable group)

def readGroup (group : String) (default : α) (read : List String → Fields → α × List Detail) :
    Json → α × List Detail
  | .object fields => read [group] fields
  | _ => (default, [⟨[group], .notGroup⟩])

def ofVariables (env : List (String × String)) : Except Failure Settings := do
  let env := byLowerName env
  let base : Settings := {}
  let tuningValue ← groupValue env "tuning"
  let catalogValue ← groupValue env "catalog"
  let observabilityValue ← groupValue env "observability"
  let storageValue ← groupValue env "storage"
  let (tuning, d₁) := readGroup "tuning" base.tuning readTuning tuningValue
  let (catalogPath, d₂) := readGroup "catalog" none (fun path fields =>
    setting path fields "path" none toTextOrNull) catalogValue
  let ((serviceName, exporterEndpoint, logLevel), d₃) :=
    readGroup "observability" (base.serviceName, none, base.logLevel) (fun path fields =>
      let (name, e₁) := setting path fields "otel_service_name" base.serviceName toText
      let (endpoint, e₂) := setting path fields "otel_exporter_otlp_endpoint" none toTextOrNull
      let (level, e₃) := setting path fields "log_level" base.logLevel toText
      ((name, endpoint, level), e₁ ++ e₂ ++ e₃)) observabilityValue
  let ((databaseUrl, artifactDir, s3Endpoint, s3Region, s3Bucket), d₄) :=
    readGroup "storage" (base.databaseUrl, base.artifactDir, none, none, none) (fun path fields =>
      let (url, e₁) := setting path fields "database_url" base.databaseUrl toText
      let (dir, e₂) := setting path fields "artifact_dir" base.artifactDir toText
      let (endpoint, e₃) := setting path fields "s3_endpoint" none toTextOrNull
      let (region, e₄) := setting path fields "s3_region" none toTextOrNull
      let (bucket, e₅) := setting path fields "s3_bucket" none toTextOrNull
      ((url, dir, endpoint, region, bucket), e₁ ++ e₂ ++ e₃ ++ e₄ ++ e₅)) storageValue
  let environment := (env.lookup "environment").getD base.environment
  let settings : Settings := {
    tuning, catalogPath, serviceName, exporterEndpoint, logLevel, databaseUrl, artifactDir
    s3Endpoint, s3Region, s3Bucket, environment }
  (complete (settings, d₁ ++ d₂ ++ d₃ ++ d₄)).mapError .wrong

def textOrNull : Option Text → Json
  | some t => .string t
  | none => .null

def toJson (s : Settings) : Json :=
  .object [
    ("tuning", s.tuning.toJson),
    ("catalog", .object [("path", textOrNull s.catalogPath)]),
    ("observability", .object [
      ("otel_service_name", .string s.serviceName),
      ("otel_exporter_otlp_endpoint", textOrNull s.exporterEndpoint),
      ("log_level", .string s.logLevel)
    ]),
    ("storage", .object [
      ("artifact_dir", .string s.artifactDir),
      ("s3_endpoint", textOrNull s.s3Endpoint),
      ("s3_region", textOrNull s.s3Region),
      ("s3_bucket", textOrNull s.s3Bucket)
    ]),
    ("environment", .string s.environment)
  ]

end Settings

end Automation
