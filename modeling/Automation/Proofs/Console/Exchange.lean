import Automation.Proofs.Compilation.Reread
import Automation.Proofs.Console.Delivery
import Automation.Proofs.Console.Tail
import Automation.Proofs.Console.Verdict

/-!
This module contains the exchange of blueprints between the console and the web interface. A
blueprint that the console prints is valid for both. The web interface keeps the same document of
the same description, unless a lone half in the name or in the version of the catalog keeps the
record from being written.
-/

namespace Automation.Console

open Archive (IsWritable IsAsked CatalogFits Adds)
open Compilation (documentOf documentDepth)
open Http (Application)
open Http.Application (Collide)
open Json (Unbroken)

section Printed

variable {t : Tuning} {file : String} {catalog : Except Catalog.Failure Catalog} {modules : Catalog}
  {options : ComposeOptions} {c : Compilation}

theorem isPlainName_title (options : ComposeOptions) : Compilation.IsPlainName options.title := by
  unfold ComposeOptions.title
  split
  . exact .inr ⟨_, rfl⟩
  . exact .inl rfl

theorem isAsked_title (options : ComposeOptions) : IsAsked options.title := by
  rcases isPlainName_title options with h | ⟨s, h⟩
  . exact .inl h
  . exact .inr ⟨s, h⟩

theorem output_of_printed
    (h : (compose t file catalog { options with target := none }).ending = .succeeded) :
    ∃ modules c, catalog = .ok modules ∧
      (compileText t modules (.int t.sleepSeconds) options.description options.title).result = .ok c ∧
      (documentOf c.blueprint).isWritable = true ∧
      (compose t file catalog { options with target := none }).output =
        (documentOf c.blueprint).lines ++ "\n" := by
  rcases compose_cases t file catalog options with ⟨o, ho, hcompose⟩ | ⟨c, events, hc, hcompose⟩
  . rw [hcompose none] at h
    exact absurd h ho
  . obtain ⟨modules, hmodules, hc⟩ := hc
    rw [hcompose none] at h ⊢
    rcases deliver_cases { events } c with ⟨crash, hdeliver⟩ | ⟨document, hdocument, hwritable⟩
    . rw [hdeliver none] at h
      exact absurd h (ending_crash { events } crash)
    . rw [deliver_none hdocument hwritable]
      rw [Compilation.toJson_of_compileText hc, Except.ok.injEq] at hdocument
      subst hdocument
      exact ⟨modules, c, hmodules, hc, hwritable, String.empty_append⟩

variable (hc : (compileText t modules (.int t.sleepSeconds) options.description
  options.title).result = .ok c)
include hc

theorem exists_title : ∃ title : Text, c.blueprint.name = .string title := by
  obtain ⟨title, htitle⟩ :=
    Archive.blueprintName_of_isAsked (isAsked_title options) t options.description
  exact ⟨title, (Archive.name_eq_blueprintName hc).trans htitle⟩

theorem isLegible_document :
    (documentOf c.blueprint).isLegible (fun _ => true) Json.maxDepth = true := by
  obtain ⟨title, htitle⟩ := exists_title hc
  exact Json.isLegible_mono
    (Compilation.isLegible_of_compileText hc (Compilation.admits_all _) ⟨htitle, rfl⟩) (by decide)

end Printed

section Told

def sizesTail (nodes connections : Nat) : List Char :=
  " ".toList ++ ((toString nodes).toList ++ (" modules, ".toList ++
    ((toString connections).toList ++ " connections".toList)))

def TellsSizes (output : String) (document : Json) : Prop :=
  ∃ (fields : Fields) (modules connections : List Json) (head : String),
    document = .object fields ∧ fields.get? "modules" = some (.array modules) ∧
    fields.get? "connections" = some (.array connections) ∧
    output = head ++ String.ofList (sizesTail modules.length connections.length) ++ "\n"

theorem isTail_sizes (nodes connections : Nat) :
    IsTail ((sizesTail nodes connections).map .char) := by
  have hnumber (n : Nat) : ∀ c ∈ (toString n).toList, c ∉ ':' :: specialChars := by
    intro c hc
    exact not_special_of_isListing (isListing_of_mem_toDigits (Nat.toList_repr ▸ hc))
  rw [IsTail, List.forall_mem_map]
  suffices hchars : ∀ c ∈ sizesTail nodes connections, c ∉ ':' :: specialChars from
    fun c hc => ⟨c, rfl, hchars c hc⟩
  simp only [sizesTail, List.forall_mem_append]
  refine ⟨?_, hnumber nodes, ?_, hnumber connections, ?_⟩ <;>
  simp [specialChars]

theorem exists_printed_tail {name : Text} {b : Blueprint} {s : String}
    (h : printed (validMessage name b) = .ok s) : ∃ head : String,
      s = head ++ String.ofList (sizesTail b.nodes.length b.connections.length) ++ "\n" := by
  have hsizes : (sizesText b).map Glyph.char =
      [.char ':'] ++ (sizesTail b.nodes.length b.connections.length).map .char := rfl
  have hcolon : ∀ g ∈ [Glyph.char ':'], Markup.isBracket g = false := by decide
  obtain ⟨gs, hrender⟩ := (isTail_sizes b.nodes.length b.connections.length).exists_render_marked
    isBullet_valid name.glyphs hcolon
  have hglyphs := glyphs_validMessage name b
  rw [hsizes] at hglyphs
  rw [List.nil_append, ← hglyphs] at hrender
  obtain ⟨_, hgs, hs⟩ := glyphs_of_printed h
  rw [hrender, Except.ok.injEq] at hgs
  rw [← hgs] at hs
  have hunbroken := Unbroken.chars s.toList
  rw [← Text.glyphs, hs, Unbroken.append_iff, Unbroken.append_iff] at hunbroken
  obtain ⟨head, rfl⟩ := hunbroken.1.1.exists_chars
  refine ⟨String.ofList head, Text.whole.inj (Text.eq_of_glyphs ?_)⟩
  rw [hs]
  simp [Text.glyphs, String.toList_append, String.toList_ofList]

theorem output_validateDocument {document : Json} {b : Blueprint} {path : String}
    (h : Blueprint.ofDocument document = .ok b) (herrors : b.errors = .ok [])
    (hending : (validateDocument path document).ending = .succeeded) : ∃ head : String,
      (validateDocument path document).output =
        head ++ String.ofList (sizesTail b.nodes.length b.connections.length) ++ "\n" := by
  have hsay : ∃ name, validateDocument path document = Outcome.say {} [validMessage name b] := by
    rw [validateDocument, h] at hending ⊢
    simp only [herrors] at hending ⊢
    split at hending
    . next name hname => exact ⟨name, rfl⟩
    . cases hending
  obtain ⟨name, hsay⟩ := hsay
  rw [hsay] at hending ⊢
  have hprintable := (ending_say (o := {}) rfl _).mp hending
  rw [List.forall_mem_singleton] at hprintable
  obtain ⟨s, hs⟩ := hprintable
  obtain ⟨head, rfl⟩ := exists_printed_tail hs
  refine ⟨head, ?_⟩
  simp only [Outcome.say, hs]
  exact String.empty_append

theorem tellsSizes_of_documentOf {b : Blueprint} {output head : String}
    (h : output = head ++ String.ofList (sizesTail b.nodes.length b.connections.length) ++ "\n") :
    TellsSizes output (documentOf b) := by
  unfold documentOf
  rcases Blueprint.optionalField_cases "scheduling" b.scheduling with
    ⟨_, hscheduling⟩ | hscheduling
  all_goals
    refine ⟨_, b.nodes.map Node.toJson, b.connections.map Connection.toJson, head, rfl, ?_, ?_, ?_⟩
    . simp [hscheduling, Fields.get?]
    . simp [hscheduling, Fields.get?]
    . rw [h, List.length_map, List.length_map]

end Told

section Kept

variable {app : Application} {archive : Archive} {modules : Catalog} {options : ComposeOptions}
  {c : Compilation}

def request (options : ComposeOptions) : Http.Request :=
  .compose (.object [("description", .string options.description), ("name", options.title)])

/-- The answer tells of a new record, and the file of the record is read as the document, unless
there is another one of the same digest. -/
structure IsStored (app : Application) (archive : Archive) (request : Http.Request) (document : Json)
    (r : Archive.Record) : Prop where
  answer : (app.answer archive request).2 = ⟨201, app.summary r⟩
  added : Adds archive (app.answer archive request).1 r
  artifact : r.artifact.paired = document
  file : ∃ name f text stored, r.file = some name ∧
    (app.answer archive request).1.file? name = some f ∧ (f.text = text ∨ Collide f.text text) ∧
    Json.ofText text = .ok stored ∧ stored.same document = true

theorem prepare_request (archive : Archive) (hcatalog : app.catalog = .ok modules)
    (hshort : (options.description.length : Int) ≤ app.tuning.maxDescriptionChars) :
    app.prepare archive (request options) =
      match archive.compose app.tuning modules options.description options.title with
      | (next, .ok r) => (next, app.created r)
      | (next, .error f) => (next, .ofFailure f) := by
  have hread : Http.Application.readCompose (.object [
      ("description", .string options.description), ("name", options.title)]) =
        .ok (options.description, options.title) := by
    unfold ComposeOptions.title
    split <;> rfl
  unfold request Http.Application.prepare Http.Application.withCatalog
  simp only [hcatalog, hread]
  change app.compose archive modules options.description options.title = _
  unfold Http.Application.compose
  exact if_neg (Int.not_lt.2 hshort)

theorem status_failed (message : Text) : (Http.Response.failed message).sent.status = 500 := by
  unfold Http.Response.sent
  split <;> rfl

theorem answer_of_not_isWritable (archive : Archive) (hcatalog : app.catalog = .ok modules)
    (hshort : (options.description.length : Int) ≤ app.tuning.maxDescriptionChars)
    (hc : Archive.compiled app.tuning modules options.description options.title = .ok c)
    (h : ¬IsWritable c.blueprint.name (documentOf c.blueprint) modules.version) :
    (app.answer archive (request options)).1 = archive ∧
      (app.answer archive (request options)).2.status = 500 := by
  obtain ⟨f, hcompose⟩ := Archive.compose_of_not_isWritable archive hc h
  have hprepare := prepare_request archive hcatalog hshort
  rw [hcompose] at hprepare
  unfold Http.Application.answer
  rw [hprepare]
  exact ⟨rfl, status_failed _⟩

theorem exists_isStored (hcatalog : app.catalog = .ok modules) (hnow : app.now.isSendable = true)
    (hconsistent : archive.IsConsistent app.tuning app.catalog)
    (hshort : (options.description.length : Int) ≤ app.tuning.maxDescriptionChars)
    (hfits : CatalogFits modules)
    (hc : Archive.compiled app.tuning modules options.description options.title = .ok c)
    (h : IsWritable c.blueprint.name (documentOf c.blueprint) modules.version) :
    ∃ r, IsStored app archive (request options) (documentOf c.blueprint).paired r := by
  have hall := Archive.fits_of_compiled hfits hc
  obtain ⟨report, hreport, hcompose⟩ := Archive.compose_of_fits archive hc h hall
  obtain ⟨f, hf, hdigest⟩ := Archive.file?_addComposed archive options.description c.blueprint
    (documentOf c.blueprint) report modules.version hconsistent.files
  obtain ⟨hnext, houtcome⟩ :=
    Archive.addComposed_spec hconsistent hcatalog (isAsked_title options) hc hreport h hall rfl
  have hprepare := prepare_request archive hcatalog hshort
  rw [hcompose, Prod.map] at hprepare
  have hsendable : (app.prepare archive (request options)).2.body.isSendable = true := by
    rw [hprepare]
    exact Http.Application.isSendable_created houtcome.plain hnow
  have hanswer := Http.Application.answer_of_isSendable hsendable
  rw [hprepare] at hanswer
  obtain ⟨hstored, hsame⟩ := Json.ofText_sorted_lines_paired (isLegible_document hc) h.artifact
  refine ⟨(archive.addComposed options.description c.blueprint (documentOf c.blueprint) report
    modules.version).2, ?_⟩
  exact {
    answer := by
      rw [hanswer]
      rfl
    added := by
      rw [hanswer]
      exact houtcome.adds
    artifact := rfl
    file := by
      refine ⟨_, f, _, _, rfl, ?_, Http.Application.eq_or_collide hdigest, hstored, hsame⟩
      rw [hanswer]
      exact hf }

end Kept

section Exchange

variable {app : Application} {archive : Archive} {modules : Catalog} {options : ComposeOptions}
  {c : Compilation} {path text : String} {document : Json}

structure Exchanged (app : Application) (archive : Archive) (options : ComposeOptions)
    (modules : Catalog) (path text : String) (c : Compilation) (document : Json) : Prop where
  compiled : Archive.compiled app.tuning modules options.description options.title = .ok c
  read : Json.ofText text = .ok document
  checked : app.answer archive (.validate document) = (archive, .ofErrors [])
  /-- The console tells of the text, unless a lone half is left in its name. -/
  told : (validate path (.text text)).ending = .succeeded ↔
    c.blueprint.name.text.paired.isWhole = true
  sizes : (validate path (.text text)).ending = .succeeded →
    TellsSizes (validate path (.text text)).output document
  /-- The web interface keeps the same document, unless there is a lone half in the name or in the
  version of the catalog. -/
  stored : (options.description.length : Int) ≤ app.tuning.maxDescriptionChars →
    CatalogFits modules → c.blueprint.name.text.isWhole = true → modules.version.isWhole = true →
      ∃ r, IsStored app archive (request options) document r
  refused : (options.description.length : Int) ≤ app.tuning.maxDescriptionChars →
    ¬(c.blueprint.name.text.isWhole = true ∧ modules.version.isWhole = true) →
      (app.answer archive (request options)).1 = archive ∧
        (app.answer archive (request options)).2.status = 500

theorem isVoid_or_whole_iff {name : Json} {title : Text} (h : name = .string title) :
    (name.isVoid = true ∨ ∃ s : String, name = .string s) ↔ title.isWhole = true := by
  subst h
  cases title with
  | whole s => exact iff_of_true (.inr ⟨s, rfl⟩) rfl
  | broken s half rest => simp [Json.isVoid, Text.isEmpty, Text.isWhole, Text.whole?]

/-- A blueprint that the console prints is valid for both, and the web interface keeps its document
where the record can be written. -/
theorem exchanged_of_printed (app : Application) (hnow : app.now.isSendable = true)
    (requests : List Http.Request) (options : ComposeOptions) (file path : String)
    (h : (compose app.tuning file app.catalog { options with target := none }).ending = .succeeded) :
    ∃ modules c document, app.catalog = .ok modules ∧
      Exchanged app (app.run requests) options modules path
        (compose app.tuning file app.catalog { options with target := none }).output c document := by
  obtain ⟨modules, c, hcatalog, hc, hwritable, houtput⟩ := output_of_printed h
  obtain ⟨d, hd, hdocument, hname⟩ :=
    Compilation.exists_compileText_paired (isPlainName_title options) hc
  obtain ⟨title, htitle⟩ := exists_title hc
  have hread := Json.ofText_lines_newLine (isLegible_document hc) hwritable
  rw [← hdocument, ← houtput] at hread
  have hblueprint := Compilation.ofDocument_documentOf hd
  have herrors := Compilation.errors_of_compiled hd
  have hvalidate : validate path (.text (compose app.tuning file app.catalog
      { options with target := none }).output) = validateDocument path (documentOf d.blueprint) := by
    rw [validate, hread]
  refine ⟨modules, c, documentOf d.blueprint, hcatalog, ?_⟩
  exact {
    compiled := hc
    read := hread
    checked := answer_validate_of_valid hblueprint herrors app (app.run requests)
    told := by
      rw [htitle] at hname ⊢
      rw [hvalidate, ending_validateDocument hblueprint herrors]
      exact isVoid_or_whole_iff hname
    sizes := by
      rw [hvalidate]
      intro hending
      obtain ⟨head, hsizes⟩ := output_validateDocument hblueprint herrors hending
      exact tellsSizes_of_documentOf hsizes
    stored := by
      intro hshort hfits htitle hversion
      rw [hdocument]
      exact exists_isStored hcatalog hnow (Application.run_isConsistent hnow requests) hshort hfits hc
        ⟨htitle, hwritable, hversion⟩
    refused := by
      intro hshort hbroken
      apply answer_of_not_isWritable _ hcatalog hshort hc
      exact fun h => hbroken ⟨h.name, h.catalogVersion⟩ }

def helloOptions : ComposeOptions where
  description := "hello"

theorem exchanged_of_printed_helloOptions :
    ∃ modules c document, (Application.exampleApplication 3).catalog = .ok modules ∧
      Exchanged (Application.exampleApplication 3) .empty helloOptions modules "a.json"
        (compose {} "modules.json" (Application.exampleApplication 3).catalog helloOptions).output c
        document ∧
      ∃ r, IsStored (Application.exampleApplication 3) .empty (request helloOptions) document r := by
  have hprinted : (compose {} "modules.json" (Application.exampleApplication 3).catalog
      helloOptions).ending = .succeeded := by
    decide +kernel
  obtain ⟨modules, c, document, hcatalog, hexchanged⟩ := exchanged_of_printed
    (Application.exampleApplication 3) rfl [] helloOptions "modules.json" "a.json" hprinted
  refine ⟨modules, c, document, hcatalog, hexchanged, ?_⟩
  have hname : c.blueprint.name = Compilation.blueprintName {} helloOptions.description .null :=
    Archive.name_eq_blueprintName hexchanged.compiled
  cases hcatalog
  refine hexchanged.stored (by decide) ?_ ?_ rfl
  . intro e he
    rw [List.mem_singleton.1 he]
    decide
  . rw [hname]
    decide +kernel

def brokenApplication : Application :=
  { Application.exampleApplication 3 with catalog := .ok ⟨[], .broken "" ⟨0⟩ ""⟩ }

/-- With a lone half for its version a catalog is good for the console, but not for the web. -/
theorem not_exchanged_of_brokenVersion :
    brokenApplication.catalog =
      Catalog.ofText "\x7b\"version\": \"\\ud800\", \"categories\": \x7b\x7d\x7d" ∧
    (compose brokenApplication.tuning "modules.json" brokenApplication.catalog helloOptions).ending =
      .succeeded ∧
    (helloOptions.description.length : Int) ≤ brokenApplication.tuning.maxDescriptionChars ∧
    CatalogFits ⟨[], .broken "" ⟨0⟩ ""⟩ ∧
    (brokenApplication.answer .empty (request helloOptions)).1 = .empty ∧
    (brokenApplication.answer .empty (request helloOptions)).2.status = 500 ∧
    ∀ document r, ¬IsStored brokenApplication .empty (request helloOptions) document r := by
  have hprinted : (compose brokenApplication.tuning "modules.json" brokenApplication.catalog
      { helloOptions with target := none }).ending = .succeeded := by
    decide +kernel
  obtain ⟨modules, c, hcatalog, hc, -, -⟩ := output_of_printed hprinted
  obtain ⟨harchive, hstatus⟩ := answer_of_not_isWritable .empty hcatalog (by decide) hc
    fun h => by
      cases hcatalog
      exact absurd h.catalogVersion Bool.false_ne_true
  refine ⟨(eq_ok_of_toOption (by decide +kernel)).symm, hprinted, by decide, nofun, harchive, hstatus,
    ?_⟩
  intro document r h
  rw [h.answer] at hstatus
  cases hstatus

end Exchange

end Automation.Console
