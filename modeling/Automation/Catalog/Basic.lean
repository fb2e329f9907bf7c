import Automation.Json.Coercion
import Automation.Json.Reader

/-!
This module contains the catalog of modules: which modules there are and in which version. A catalog
is read from a document that groups modules by category and application.
-/

namespace Automation

structure Catalog.Entry where
  moduleType : Text
  version : Int
  label : Json
  category : Text
  kind : Json
  deriving Repr, DecidableEq

structure Catalog where
  entries : List Catalog.Entry
  version : Text
  deriving Repr, DecidableEq

inductive Catalog.Failure where
  | unreadable
  | noCategories
  | noModules (category : Text)
  | badApplication (application : Text)
  | noVersion (moduleType : Text)
  | fault (fault : Fault)
  deriving Repr, DecidableEq

namespace Catalog

namespace Failure

def message : Failure → Text
  | unreadable => "Unable to read module catalog"
  | noCategories => "Catalog document has no 'categories' mapping"
  | noModules category => "Catalog category '" ++ category ++ "' has no 'modules' mapping"
  | badApplication application =>
    "Catalog app '" ++ application ++ "' must map operations to entries"
  | noVersion moduleType => "Catalog entry '" ++ moduleType ++ "' has no integer version"
  | fault f => f.message

end Failure

def defaultVersion : Int := 1

def find? (catalog : Catalog) (moduleType : Text) : Option Entry :=
  catalog.entries.find? (·.moduleType == moduleType)

def versionOf (catalog : Catalog) (moduleType : Text) : Int :=
  match catalog.find? moduleType with
  | some entry => entry.version
  | none => defaultVersion

def putEntry : List Entry → Entry → List Entry
  | [], entry => [entry]
  | e :: es, entry =>
    if e.moduleType = entry.moduleType then entry :: es else e :: putEntry es entry

def sortedEntries (catalog : Catalog) : List Entry :=
  catalog.entries.mergeSort fun a b => Text.precedes a.moduleType b.moduleType

def objectFields? : Json → Option Fields
  | .object fields => some fields
  | _ => none

def readEntry (category application operation : Text) (info : Json) : Except Failure Entry :=
  let moduleType := application ++ "." ++ operation
  match info.field "version" >>= Json.toInteger with
  | .ok version =>
    let fields := (objectFields? info).getD []
    .ok {
      moduleType
      version
      label := fields.getD "label" (.string moduleType)
      category
      kind := fields.getD "kind" (.string "action")
    }
  | .error .infiniteInteger => .error (.fault .infiniteInteger)
  | .error _ => .error (.noVersion moduleType)

def readApplication (category application : Text) (found : List Entry) (operations : Json) :
    Except Failure (List Entry) :=
  match objectFields? operations with
  | some fields =>
    fields.foldlM (fun es (operation, info) => do
      return putEntry es (← readEntry category application operation info)) found
  | none => .error (.badApplication application)

def readCategory (category : Text) (found : List Entry) (content : Json) :
    Except Failure (List Entry) :=
  match (objectFields? content).bind fun fields => (fields.get? "modules").bind objectFields? with
  | some applications =>
    applications.foldlM (fun es (application, operations) =>
      readApplication category application es operations) found
  | none => .error (.noModules category)

def ofDocument (document : Json) : Except Failure Catalog :=
  match document.asObject with
  | .error f => .error (.fault f)
  | .ok fields =>
    match (fields.get? "categories").bind objectFields? with
    | none => .error .noCategories
    | some categories => do
      let entries ← categories.foldlM (fun es (category, content) =>
        readCategory category es content) []
      return { entries, version := (fields.getD "version" (.string "unversioned")).text }

def ofText (text : String) : Except Failure Catalog :=
  match Json.ofText text with
  | .ok document => ofDocument document
  | .error .malformed => .error .unreadable
  | .error (.excess f) => .error (.fault f)

def ofFile : Option String → Except Failure Catalog
  | some text => ofText text
  | none => .error .unreadable

end Catalog

end Automation
