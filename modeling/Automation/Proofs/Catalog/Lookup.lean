import Automation.Proofs.Blueprint.Diagnosis
import Automation.Proofs.Catalog.Reported
import Automation.Proofs.Json.Basic
import Automation.Proofs.Text.Order

/-!
This module contains what is looked up in a catalog, told by the document that it was read from. The
nested document is one list of operations, in which two of them may have the same name; of a name
the last one counts, and the listing has every name once and in order.
-/

namespace Automation.Catalog

structure Listed where
  category : Text
  application : Text
  operation : Text
  info : Json
  deriving Repr, DecidableEq

namespace Listed

def moduleType (l : Listed) : Text :=
  l.application ++ "." ++ l.operation

def read (l : Listed) : Except Failure Entry :=
  readEntry l.category l.application l.operation l.info

structure Gives (l : Listed) (e : Entry) : Prop where
  moduleType : e.moduleType = l.moduleType
  version : ∃ version, Fields.get? l.info.fields "version" = some version ∧
    version.toInteger = .ok e.version
  label : e.label = l.info.fields.getD "label" (.string l.moduleType)
  category : e.category = l.category
  kind : e.kind = l.info.fields.getD "kind" (.string "action")

def IsInfinite (l : Listed) : Prop :=
  ∃ negative, Fields.get? l.info.fields "version" = some (.real (.infinite negative))

variable {l : Listed} {e e' : Entry}

theorem gives_of_read (h : l.read = .ok e) : l.Gives e := by
  unfold read readEntry at h
  split at h
  . rename_i n hversion
    obtain ⟨version, hfield, hn⟩ := bind_eq_ok.1 hversion
    obtain ⟨fields, hinfo, hget⟩ := Json.field_eq_ok_iff.1 hfield
    cases h
    rw [hinfo]
    exact {
      moduleType := rfl
      version := ⟨version, by rw [hinfo]; exact hget, hn⟩
      label := by rw [hinfo]; rfl
      category := rfl
      kind := by rw [hinfo]; rfl }
  . cases h
  . cases h

theorem Gives.unique (h : l.Gives e) (h' : l.Gives e') : e = e' := by
  obtain ⟨v, hv, he⟩ := h.version
  obtain ⟨v', hv', he'⟩ := h'.version
  cases hv.symm.trans hv'
  have hversion : e.version = e'.version := Except.ok.inj (he.symm.trans he')
  cases e
  cases e'
  rw [Entry.mk.injEq]
  exact ⟨h.moduleType.trans h'.moduleType.symm, hversion, h.label.trans h'.label.symm,
    h.category.trans h'.category.symm, h.kind.trans h'.kind.symm⟩

end Listed

section Listed

def applicationListed (category application : Text) (operations : Json) : List Listed :=
  operations.fields.map fun (operation, info) => { category, application, operation, info }

def categoryListed (category : Text) (content : Json) : List Listed :=
  (content.fields.getD "modules" .null).fields.flatMap fun (application, operations) =>
    applicationListed category application operations

def listed (document : Json) : List Listed :=
  (document.fields.getD "categories" .null).fields.flatMap fun (category, content) =>
    categoryListed category content

def lastNamed? (m : Text) (ls : List Listed) : Option Listed :=
  (ls.filter (·.moduleType == m)).getLast?

theorem lastNamed?_cons (m : Text) (l : Listed) (ls : List Listed) :
    lastNamed? m (l :: ls) = (lastNamed? m ls).or (if l.moduleType = m then some l else none) := by
  unfold lastNamed?
  by_cases hm : l.moduleType = m
  . rw [List.filter_cons_of_pos (by simpa using hm), List.getLast?_cons, if_pos hm]
    cases (ls.filter (·.moduleType == m)).getLast? <;> rfl
  . rw [List.filter_cons_of_neg (by simpa using hm), if_neg hm, Option.or_none]

theorem lastNamed?_eq_none_iff {m : Text} {ls : List Listed} :
    lastNamed? m ls = none ↔ ∀ l ∈ ls, l.moduleType ≠ m := by
  simp [lastNamed?]

def putListed (es : List Entry) (l : Listed) : Except Failure (List Entry) := do
  return putEntry es (← l.read)

variable {category application : Text} {es es' : List Entry}

theorem fields_modules {content : Json} {applications : Fields}
    (h : ((objectFields? content).bind fun fields => (fields.get? "modules").bind objectFields?) =
      some applications) : (content.fields.getD "modules" .null).fields = applications := by
  obtain ⟨fields, hfields, hmodules⟩ := Option.bind_eq_some_iff.1 h
  rw [objectFields?_eq_some_iff] at hfields
  rw [bind_objectFields?_eq_some_iff] at hmodules
  rw [hfields]
  simp [Json.fields, Fields.getD, hmodules]

theorem fields_categories {fields categories : Fields}
    (h : (fields.get? "categories").bind objectFields? = some categories) :
    ((Json.object fields).fields.getD "categories" .null).fields = categories := by
  rw [bind_objectFields?_eq_some_iff] at h
  simp [Json.fields, Fields.getD, h]

theorem foldlM_putListed_of_application {operations : Json}
    (h : readApplication category application es operations = .ok es') :
    (applicationListed category application operations).foldlM putListed es = .ok es' := by
  unfold readApplication at h
  split at h
  . rename_i fields hfields
    rw [objectFields?_eq_some_iff] at hfields
    rw [hfields, applicationListed, List.foldlM_map]
    exact h
  . cases h

theorem foldlM_putListed_of_category {content : Json}
    (h : readCategory category es content = .ok es') :
    (categoryListed category content).foldlM putListed es = .ok es' := by
  unfold readCategory at h
  split at h
  . rename_i applications happlications
    rw [categoryListed, fields_modules happlications]
    apply foldlM_flatMap_of_ok _ h
    rintro es ⟨application, operations⟩ es' hstep
    exact foldlM_putListed_of_application hstep
  . cases h

theorem foldlM_putListed_of_document {document : Json} {catalog : Catalog}
    (h : ofDocument document = .ok catalog) :
    (listed document).foldlM putListed [] = .ok catalog.entries := by
  cases document with
  | object fields =>
    unfold ofDocument Json.asObject at h
    dsimp only at h
    split at h
    . cases h
    . rename_i categories hcategories
      obtain ⟨entries, hentries, h⟩ := bind_eq_ok.1 h
      cases h
      rw [listed, fields_categories hcategories]
      apply foldlM_flatMap_of_ok _ hentries
      rintro es ⟨category, content⟩ es' hstep
      exact foldlM_putListed_of_category hstep
  | _ => cases h

end Listed

section Infinite

variable {category application operation : Text} {fault : Fault}

theorem eq_infinite_of_toInteger {v : Json} (h : v.toInteger = .error .infiniteInteger) :
    ∃ negative, v = .real (.infinite negative) := by
  unfold Json.toInteger at h
  split at h
  . cases h
  . cases h
  . split at h
    . cases h
    . exact ⟨_, rfl⟩
    . cases h
  . split at h <;> cases h
  . cases h

theorem isInfinite_of_mem_entryFlaws {info : Json}
    (h : .fault fault ∈ entryFlaws application operation info) (category : Text) :
    Listed.IsInfinite { category, application, operation, info } := by
  unfold entryFlaws at h
  split at h
  . cases h
  . rename_i hversion
    rcases bind_eq_error.1 hversion with hfield | ⟨version, hfield, hinteger⟩
    . unfold Json.field at hfield
      split at hfield <;> first | cases hfield | (split at hfield <;> cases hfield)
    . obtain ⟨fields, rfl, hget⟩ := Json.field_eq_ok_iff.1 hfield
      obtain ⟨negative, rfl⟩ := eq_infinite_of_toInteger hinteger
      exact ⟨negative, hget⟩
  . simp at h

theorem exists_infinite_of_mem_applicationFlaws {operations : Json}
    (h : .fault fault ∈ applicationFlaws application operations) (category : Text) :
    ∃ l ∈ applicationListed category application operations, l.IsInfinite := by
  unfold applicationFlaws at h
  split at h
  . rename_i fields hfields
    rw [objectFields?_eq_some_iff] at hfields
    obtain ⟨⟨operation, info⟩, hinfo, hmem⟩ := List.mem_flatMap.1 h
    refine ⟨_, ?_, isInfinite_of_mem_entryFlaws hmem category⟩
    rw [hfields]
    exact List.mem_map_of_mem (f := fun f : Text × Json => Listed.mk category application f.1 f.2)
      hinfo
  . simp at h

theorem exists_infinite_of_mem_categoryFlaws {content : Json}
    (h : .fault fault ∈ categoryFlaws category content) :
    ∃ l ∈ categoryListed category content, l.IsInfinite := by
  unfold categoryFlaws at h
  split at h
  . rename_i applications happlications
    obtain ⟨⟨application, operations⟩, hoperations, hmem⟩ := List.mem_flatMap.1 h
    obtain ⟨l, hl, hinfinite⟩ := exists_infinite_of_mem_applicationFlaws hmem category
    refine ⟨l, ?_, hinfinite⟩
    rw [categoryListed, fields_modules happlications]
    exact List.mem_flatMap.2 ⟨_, hoperations, hl⟩
  . simp at h

/-- A document of an object is refused as a fault only if the version of an operation
is infinite. -/
theorem exists_infinite_of_mem_flaws {fields : Fields} (h : .fault fault ∈ flaws (.object fields)) :
    ∃ l ∈ listed (.object fields), l.IsInfinite := by
  unfold flaws Json.asObject at h
  dsimp only at h
  split at h
  . rename_i categories hcategories
    obtain ⟨⟨category, content⟩, hcontent, hmem⟩ := List.mem_flatMap.1 h
    obtain ⟨l, hl, hinfinite⟩ := exists_infinite_of_mem_categoryFlaws hmem
    refine ⟨l, ?_, hinfinite⟩
    rw [listed, fields_categories hcategories]
    exact List.mem_flatMap.2 ⟨_, hcontent, hl⟩
  . simp at h

end Infinite

section Put

variable {es es' : List Entry} {ls : List Listed} {m : Text}

theorem find?_putEntry (es : List Entry) (e : Entry) (m : Text) :
    (putEntry es e).find? (·.moduleType == m) =
      if e.moduleType = m then some e else es.find? (·.moduleType == m) := by
  induction es with
  | nil => by_cases hm : e.moduleType = m <;> simp [putEntry, hm]
  | cons e' es ih =>
    unfold putEntry
    by_cases hkey : e'.moduleType = e.moduleType
    . rw [if_pos hkey]
      by_cases hm : e.moduleType = m
      . rw [if_pos hm, List.find?_cons_of_pos (by simpa using hm)]
      . rw [if_neg hm, List.find?_cons_of_neg (by simpa using hm),
          List.find?_cons_of_neg (by simpa [hkey] using hm)]
    . rw [if_neg hkey]
      by_cases hm : e'.moduleType = m
      . have hne : e.moduleType ≠ m := fun h => hkey (hm.trans h.symm)
        rw [if_neg hne, List.find?_cons_of_pos (by simpa using hm),
          List.find?_cons_of_pos (by simpa using hm)]
      . rw [List.find?_cons_of_neg (by simpa using hm), ih,
          List.find?_cons_of_neg (by simpa using hm)]

theorem mem_moduleType_putEntry {es : List Entry} {e : Entry} {m : Text} :
    m ∈ (putEntry es e).map (·.moduleType) ↔ m ∈ es.map (·.moduleType) ∨ m = e.moduleType := by
  induction es with
  | nil => simp [putEntry]
  | cons e' es ih =>
    unfold putEntry
    by_cases hkey : e'.moduleType = e.moduleType
    . rw [if_pos hkey, List.map_cons, List.map_cons, List.mem_cons, List.mem_cons, hkey]
      tauto
    . rw [if_neg hkey, List.map_cons, List.map_cons, List.mem_cons, List.mem_cons, ih, or_assoc]

theorem nodup_putEntry {es : List Entry} (h : (es.map (·.moduleType)).Nodup) (e : Entry) :
    ((putEntry es e).map (·.moduleType)).Nodup := by
  induction es with
  | nil => simp [putEntry]
  | cons e' es ih =>
    rw [List.map_cons, List.nodup_cons] at h
    unfold putEntry
    by_cases hkey : e'.moduleType = e.moduleType
    . rw [if_pos hkey, List.map_cons, List.nodup_cons, ← hkey]
      exact h
    . rw [if_neg hkey, List.map_cons, List.nodup_cons, mem_moduleType_putEntry, not_or]
      exact ⟨⟨h.1, hkey⟩, ih h.2⟩

theorem exists_read_of_foldlM_cons {l : Listed} (h : (l :: ls).foldlM putListed es = .ok es') :
    ∃ e, l.read = .ok e ∧ ls.foldlM putListed (putEntry es e) = .ok es' := by
  rw [List.foldlM_cons] at h
  obtain ⟨found, hput, h⟩ := bind_eq_ok.1 h
  obtain ⟨e, he, hput⟩ := bind_eq_ok.1 hput
  cases hput
  exact ⟨e, he, h⟩

theorem find?_foldlM_putListed (h : ls.foldlM putListed es = .ok es') (m : Text) :
    es'.find? (·.moduleType == m) =
      match lastNamed? m ls with
      | some l => l.read.toOption
      | none => es.find? (·.moduleType == m) := by
  induction ls generalizing es with
  | nil =>
    cases h
    rfl
  | cons l ls ih =>
    obtain ⟨e, he, h⟩ := exists_read_of_foldlM_cons h
    have hname : e.moduleType = l.moduleType := (Listed.gives_of_read he).moduleType
    rw [ih h, find?_putEntry, hname, lastNamed?_cons]
    cases lastNamed? m ls with
    | some l' => rfl
    | none =>
      by_cases hm : l.moduleType = m
      . rw [if_pos hm, if_pos hm]
        exact (congrArg Except.toOption he).symm
      . rw [if_neg hm, if_neg hm, Option.none_or]

theorem read_of_foldlM_putListed (h : ls.foldlM putListed es = .ok es') :
    ∀ l ∈ ls, ∃ e, l.read = .ok e := by
  induction ls generalizing es with
  | nil => simp
  | cons l ls ih =>
    obtain ⟨e, he, h⟩ := exists_read_of_foldlM_cons h
    rw [List.forall_mem_cons]
    exact ⟨⟨e, he⟩, ih h⟩

theorem nodup_foldlM_putListed (hes : (es.map (·.moduleType)).Nodup)
    (h : ls.foldlM putListed es = .ok es') : (es'.map (·.moduleType)).Nodup := by
  induction ls generalizing es with
  | nil =>
    cases h
    exact hes
  | cons l ls ih =>
    obtain ⟨e, -, h⟩ := exists_read_of_foldlM_cons h
    exact ih (nodup_putEntry hes e) h

end Put

section Lookup

variable {document : Json} {catalog : Catalog} {m : Text} {e : Entry}

theorem read_of_lastNamed? (h : ofDocument document = .ok catalog) {l : Listed}
    (hl : lastNamed? m (listed document) = some l) : ∃ e, l.read = .ok e := by
  have hmem : l ∈ listed document := (List.mem_filter.1 (List.mem_of_getLast? hl)).1
  exact read_of_foldlM_putListed (foldlM_putListed_of_document h) l hmem

theorem find?_eq_read (h : ofDocument document = .ok catalog) (m : Text) :
    catalog.find? m = (lastNamed? m (listed document)).bind (·.read.toOption) := by
  rw [find?, find?_foldlM_putListed (foldlM_putListed_of_document h)]
  cases lastNamed? m (listed document) <;> rfl

theorem find?_eq_some_iff (h : ofDocument document = .ok catalog) :
    catalog.find? m = some e ↔ ∃ l, lastNamed? m (listed document) = some l ∧ l.Gives e := by
  rw [find?_eq_read h, Option.bind_eq_some_iff]
  constructor
  . rintro ⟨l, hl, he⟩
    exact ⟨l, hl, Listed.gives_of_read (eq_ok_of_toOption he)⟩
  . rintro ⟨l, hl, he⟩
    obtain ⟨e', he'⟩ := read_of_lastNamed? h hl
    rw [he.unique (Listed.gives_of_read he')]
    exact ⟨l, hl, congrArg Except.toOption he'⟩

theorem find?_eq_none_iff (h : ofDocument document = .ok catalog) :
    catalog.find? m = none ↔ ∀ l ∈ listed document, l.moduleType ≠ m := by
  rw [← lastNamed?_eq_none_iff, find?_eq_read h]
  cases hl : lastNamed? m (listed document) with
  | none => simp
  | some l =>
    obtain ⟨e, he⟩ := read_of_lastNamed? h hl
    simp [he, Except.toOption]

theorem nodup_entries (h : ofDocument document = .ok catalog) :
    (catalog.entries.map (·.moduleType)).Nodup := by
  have hnil : (([] : List Entry).map (·.moduleType)).Nodup := List.nodup_nil
  exact nodup_foldlM_putListed hnil (foldlM_putListed_of_document h)

theorem mem_entries_iff (h : ofDocument document = .ok catalog) :
    e ∈ catalog.entries ↔ catalog.find? e.moduleType = some e := by
  refine ⟨fun hmem => ?_, List.mem_of_find?_eq_some⟩
  obtain ⟨before, after, hentries⟩ := List.append_of_mem hmem
  have hnodup := nodup_entries h
  rw [hentries, List.map_append, List.nodup_append] at hnodup
  rw [find?, List.find?_eq_some_iff_append]
  refine ⟨by simp, before, after, hentries, ?_⟩
  intro e' he'
  have hne := hnodup.2.2 e'.moduleType (List.mem_map_of_mem he') e.moduleType (by simp)
  simpa using hne

theorem mem_names_iff (h : ofDocument document = .ok catalog) :
    m ∈ catalog.entries.map (·.moduleType) ↔ m ∈ (listed document).map (·.moduleType) := by
  have hnone : m ∉ catalog.entries.map (·.moduleType) ↔ catalog.find? m = none := by
    simp [find?]
  rw [← not_iff_not, hnone, find?_eq_none_iff h]
  simp

theorem length_entries (h : ofDocument document = .ok catalog) :
    catalog.entries.length = ((listed document).map (·.moduleType)).eraseDups.length := by
  have hperm : (catalog.entries.map (·.moduleType)).Perm
      ((listed document).map (·.moduleType)).eraseDups := by
    rw [List.perm_ext_iff_of_nodup (nodup_entries h) (Blueprint.nodup_eraseDups _)]
    intro m
    rw [List.mem_eraseDups, mem_names_iff h]
  rw [← hperm.length_eq, List.length_map]

theorem pairwise_sortedEntries (h : ofDocument document = .ok catalog) :
    (catalog.sortedEntries.map (·.moduleType)).Pairwise Text.Before := by
  rw [sortedEntries, List.map_mergeSort (s := Text.precedes) fun _ _ _ _ => rfl]
  exact Text.pairwise_mergeSort_precedes (nodup_entries h)

theorem answer_catalog_iff (app : Http.Application) (archive : Archive)
    (h : app.catalog = .ok catalog) :
    app.answer archive .catalog = (archive, Http.Application.catalogListing catalog) ↔
      (Http.Application.catalogListing catalog).body.isSendable = true := by
  have hanswer : app.answer archive .catalog =
      (archive, (Http.Application.catalogListing catalog).sent) := by
    unfold Http.Application.answer Http.Application.prepare Http.Application.withCatalog
    rw [h]
    rfl
  rw [hanswer]
  cases hsendable : (Http.Application.catalogListing catalog).body.isSendable with
  | true =>
    rw [Http.Response.sent_of_isSendable hsendable]
    exact iff_of_true rfl rfl
  | false =>
    refine iff_of_false (fun heq => ?_) nofun
    have hstatus := Http.Response.status_sent hsendable
    rw [(Prod.mk.inj heq).2] at hstatus
    cases hstatus

/-- What a catalog has of a document: of every name the last operation, and the listing each of
these once and in order, if it can be sent. -/
structure Lists (document : Json) (catalog : Catalog) : Prop where
  found : ∀ m e, catalog.find? m = some e ↔
    ∃ l, lastNamed? m (listed document) = some l ∧ l.Gives e
  absent : ∀ m, catalog.find? m = none ∧ catalog.versionOf m = 1 ↔
    ∀ l ∈ listed document, l.moduleType ≠ m
  size : catalog.entries.length = ((listed document).map (·.moduleType)).eraseDups.length
  ascending : (catalog.sortedEntries.map (·.moduleType)).Pairwise Text.Before
  mem_sorted : ∀ e, e ∈ catalog.sortedEntries ↔ catalog.find? e.moduleType = some e
  answered : ∀ (app : Http.Application) (archive : Archive), app.catalog = .ok catalog →
    (app.answer archive .catalog = (archive, Http.Application.catalogListing catalog) ↔
      (Http.Application.catalogListing catalog).body.isSendable = true)

theorem lists_of_document (h : ofDocument document = .ok catalog) : Lists document catalog where
  found := fun _ _ => find?_eq_some_iff h
  absent := by
    intro m
    rw [← find?_eq_none_iff h]
    refine and_iff_left_of_imp fun hnone => ?_
    rw [versionOf, hnone]
    rfl
  size := length_entries h
  ascending := pairwise_sortedEntries h
  mem_sorted := by
    intro e
    rw [sortedEntries, List.mem_mergeSort, mem_entries_iff h]
  answered := fun app archive => answer_catalog_iff app archive

end Lookup

end Automation.Catalog
