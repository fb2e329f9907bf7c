import Automation.Blueprint.Document
import Automation.Proofs.Outcome

/-!
This module contains the ways in which a document fails to be that of a blueprint: whatever its
shape, a value in it lacks an operation, is of the wrong kind or cannot be read as what it stands
for.
-/

namespace Automation

/-- What is amiss with a value, apart from which value it is. -/
inductive Fault.Family where
  | operation
  | kind
  | value
  | key
  | range
  | depth
  deriving Repr, DecidableEq

def Fault.family : Fault → Fault.Family
  | .lacksOperation .. => .operation
  | .pairLength .. | .badNumeral _ | .longNumeral _ | .unwritableNumber | .undefinedInteger
  | .unencodable .. | .unsendableNumber => .value
  | .missingKey _ => .key
  | .infiniteInteger | .wideNumber => .range
  | .tooDeep _ => .depth
  | .notIterable _ | .notMapping _ | .notContainer _ | .notIndexed _ | .indexedByPosition _
  | .unhashable _ | .notText _ | .notNumber _ | .notMultiple _ | .badCut | .notPair _ => .kind

namespace Json

variable {f : Fault}

theorem family_of_asObject {v : Json} (h : v.asObject = .error f) : f.family = .operation := by
  cases v with
  | object fs => cases h
  | _ =>
    cases h
    rfl

theorem family_of_asList {v : Json} (h : v.asList = .error f) : f.family = .kind := by
  cases v with
  | array xs => cases h
  | string t => cases h
  | object fs => cases h
  | _ =>
    cases h
    rfl

theorem family_of_asKey {v : Json} (h : v.asKey = .error f) : f.family = .kind := by
  cases v with
  | array xs =>
    cases h
    rfl
  | object fs =>
    cases h
    rfl
  | _ => cases h

theorem family_of_asPair {position : Nat} {v : Json} (h : v.asPair position = .error f) :
    f.family = .kind ∨ f.family = .value := by
  unfold asPair at h
  split at h
  . rcases bind_eq_error.1 h with hkey | ⟨key, -, h⟩
    . exact .inl (family_of_asKey hkey)
    . cases h
  . cases h
    exact .inr rfl
  . cases h
    exact .inl rfl

theorem family_of_readPairs {found : List (Json × Json)} {position : Nat} {vs : List Json}
    (h : readPairs found position vs = .error f) : f.family = .kind ∨ f.family = .value := by
  induction vs generalizing found position with
  | nil => cases h
  | cons v vs ih =>
    rcases bind_eq_error.1 h with hpair | ⟨pair, -, h⟩
    . exact family_of_asPair hpair
    . exact ih h

theorem family_of_toFields {v : Json} (h : v.toFields = .error f) :
    f.family = .kind ∨ f.family = .value := by
  unfold toFields at h
  split at h
  . cases h
  . rcases bind_eq_error.1 h with hlist | ⟨xs, -, h⟩
    . exact .inl (family_of_asList hlist)
    . rcases bind_eq_error.1 h with hpairs | ⟨pairs, -, h⟩
      . exact family_of_readPairs hpairs
      . cases h

end Json

namespace Blueprint

namespace Malformed

def family : Malformed → Fault.Family
  | .fault f => f.family
  | _ => .value

def IsExpected (m : Malformed) : Prop :=
  m.family ∈ [.operation, .kind, .value]

theorem isExpected_of_family {m : Malformed} (h : m.family = .kind ∨ m.family = .value) :
    m.IsExpected := by
  unfold IsExpected
  rcases h with h | h <;> rw [h] <;> decide

theorem isExpected_of_value {m : Malformed} (h : m.family = .value) : m.IsExpected :=
  isExpected_of_family (.inr h)

end Malformed

section Readers

variable {m : Malformed}

theorem exists_of_checked {α : Type} {r : Except Fault α} (h : checked r = .error m) :
    ∃ f, r = .error f ∧ m = .fault f := by
  cases r with
  | ok a => cases h
  | error f =>
    cases h
    exact ⟨f, rfl, rfl⟩

theorem isExpected_of_asObject {v : Json} (h : checked v.asObject = .error m) : m.IsExpected := by
  obtain ⟨f, hf, rfl⟩ := exists_of_checked h
  simp [Malformed.IsExpected, Malformed.family, Json.family_of_asObject hf]

theorem isExpected_of_readList {fields : Fields} {name : String}
    (h : readList fields name = .error m) : m.IsExpected := by
  obtain ⟨f, hf, rfl⟩ := exists_of_checked h
  exact Malformed.isExpected_of_family (.inl (Json.family_of_asList hf))

theorem isExpected_of_moduleId {role : String} {v : Json} (h : moduleId role v = .error m) :
    m.IsExpected := by
  cases v with
  | int n => cases h
  | _ =>
    cases h
    exact Malformed.isExpected_of_value rfl

theorem isExpected_of_asObjectOr {otherwise : Malformed} (hother : otherwise.family = .value)
    {v : Json} (h : asObjectOr otherwise v = .error m) : m.IsExpected := by
  cases v with
  | object fields => cases h
  | _ =>
    cases h
    exact Malformed.isExpected_of_value hother

theorem isExpected_of_readGroups {filter : Fields} (h : readGroups filter = .error m) :
    m.IsExpected := by
  unfold readGroups at h
  split at h
  . obtain ⟨v, -, hv⟩ := error_of_mapM h
    split at hv
    . cases hv
    . cases hv
      exact Malformed.isExpected_of_value rfl
  . cases h
    exact Malformed.isExpected_of_value rfl

theorem isExpected_of_firstCondition {groups : List (List Json)}
    (h : firstCondition groups = .error m) : m.IsExpected := by
  unfold firstCondition at h
  split at h
  . cases h
  . cases h
    exact Malformed.isExpected_of_value rfl
  . cases h

theorem isExpected_of_readFilter {label : Json} {filter : Fields}
    (h : readFilter label filter = .error m) : m.IsExpected := by
  rcases bind_eq_error.1 h with hgroups | ⟨groups, -, h⟩
  . exact isExpected_of_readGroups hgroups
  . rcases bind_eq_error.1 h with hcondition | ⟨condition, -, h⟩
    . exact isExpected_of_firstCondition hcondition
    . cases h

theorem isExpected_of_readRoute {position : Nat} {v : Json} (h : readRoute position v = .error m) :
    m.IsExpected := by
  rcases bind_eq_error.1 h with hroute | ⟨route, -, h⟩
  . exact isExpected_of_asObjectOr rfl hroute
  . rcases bind_eq_error.1 h with hfilter | ⟨filter, -, h⟩
    . exact isExpected_of_asObjectOr rfl hfilter
    . rcases bind_eq_error.1 h with hread | ⟨read, -, h⟩
      . exact isExpected_of_readFilter hread
      . cases h

theorem isExpected_of_readRoutes {position : Nat} {vs : List Json}
    (h : readRoutes position vs = .error m) : m.IsExpected := by
  induction vs generalizing position with
  | nil => cases h
  | cons v vs ih =>
    rcases bind_eq_error.1 h with hroute | ⟨route, -, h⟩
    . exact isExpected_of_readRoute hroute
    . rcases bind_eq_error.1 h with hroutes | ⟨routes, -, h⟩
      . exact ih hroutes
      . cases h

theorem isExpected_of_readNode {v : Json} (h : readNode v = .error m) : m.IsExpected := by
  unfold readNode at h
  rcases bind_eq_error.1 h with hobject | ⟨fields, -, h⟩
  . exact isExpected_of_asObject hobject
  rcases bind_eq_error.1 h with hid | ⟨id, -, h⟩
  . exact isExpected_of_moduleId hid
  rcases bind_eq_error.1 h with hparameters | ⟨parameters, -, h⟩
  . obtain ⟨f, hf, rfl⟩ := exists_of_checked hparameters
    exact Malformed.isExpected_of_family (Json.family_of_toFields hf)
  dsimp only at h
  split at h
  . cases h
  . rcases bind_eq_error.1 h with hroutes | ⟨routes, -, h⟩
    . exact isExpected_of_readRoutes hroutes
    . cases h
  . cases h
    exact Malformed.isExpected_of_value rfl

theorem isExpected_of_readConnection {v : Json} (h : readConnection v = .error m) :
    m.IsExpected := by
  unfold readConnection at h
  rcases bind_eq_error.1 h with hobject | ⟨fields, -, h⟩
  . exact isExpected_of_asObject hobject
  rcases bind_eq_error.1 h with hsource | ⟨source, -, h⟩
  . exact isExpected_of_moduleId hsource
  rcases bind_eq_error.1 h with htarget | ⟨target, -, h⟩
  . exact isExpected_of_moduleId htarget
  . cases h

theorem isExpected_of_ofDocument {document : Json} (h : ofDocument document = .error m) :
    m.IsExpected := by
  unfold ofDocument at h
  rcases bind_eq_error.1 h with hobject | ⟨fields, -, h⟩
  . exact isExpected_of_asObject hobject
  rcases bind_eq_error.1 h with hmodules | ⟨modules, -, h⟩
  . exact isExpected_of_readList hmodules
  rcases bind_eq_error.1 h with hnodes | ⟨nodes, -, h⟩
  . obtain ⟨v, -, hv⟩ := error_of_mapM hnodes
    exact isExpected_of_readNode hv
  rcases bind_eq_error.1 h with hlist | ⟨list, -, h⟩
  . exact isExpected_of_readList hlist
  rcases bind_eq_error.1 h with hconnections | ⟨connections, -, h⟩
  . obtain ⟨v, -, hv⟩ := error_of_mapM hconnections
    exact isExpected_of_readConnection hv
  rcases bind_eq_error.1 h with hmetadata | ⟨metadata, -, h⟩
  . exact isExpected_of_asObject hmetadata
  rcases bind_eq_error.1 h with hdefs | ⟨defs, -, h⟩
  . exact isExpected_of_readList hdefs
  rcases bind_eq_error.1 h with hstores | ⟨stores, -, h⟩
  . exact isExpected_of_readList hstores
  . cases h

end Readers

end Blueprint

end Automation
