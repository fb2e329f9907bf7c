import Automation.Proofs.Catalog.Flaws
import Automation.Proofs.Console.Delivery
import Automation.Proofs.Console.Tame
import Automation.Proofs.Http.Views

/-!
This module contains how files that hold no catalog are told of. The web interface and the console
tell of them as such, and of no others, unless the text exceeds what can be read, holds no object,
or its first flaw is an infinite version or lies in a name that cannot be encoded.
-/

namespace Automation

namespace Catalog

def Failure.IsTold (f : Failure) : Prop :=
  (∀ fault, f ≠ .fault fault) ∧ f.message.isWhole = true

/-- Files that are amiss but not told of, at least not everywhere, as holding no catalog. -/
inductive Escapes : Option String → Prop
  | excess {text : String} {fault : Fault} (read : Json.ofText text = .error (.excess fault)) :
    Escapes (some text)
  | noObject {text : String} {document : Json} (read : Json.ofText text = .ok document)
    (ne_object : ∀ fields, document ≠ .object fields) : Escapes (some text)
  | flaw {text : String} {document : Json} {f : Failure} (read : Json.ofText text = .ok document)
    (first : (flaws document).head? = some f)
    (unlike : f = .fault .infiniteInteger ∨ f.message.isWhole = false) : Escapes (some text)

theorem eq_infiniteInteger_of_mem_entryFlaws {application operation : Text} {info : Json}
    {fault : Fault} (h : .fault fault ∈ entryFlaws application operation info) :
    fault = .infiniteInteger := by
  unfold entryFlaws at h
  split at h
  . cases h
  . simpa using h
  . simp at h

theorem eq_infiniteInteger_of_mem_applicationFlaws {application : Text} {operations : Json}
    {fault : Fault} (h : .fault fault ∈ applicationFlaws application operations) :
    fault = .infiniteInteger := by
  unfold applicationFlaws at h
  split at h
  . obtain ⟨⟨operation, info⟩, -, hmem⟩ := List.mem_flatMap.1 h
    exact eq_infiniteInteger_of_mem_entryFlaws hmem
  . simp at h

theorem eq_infiniteInteger_of_mem_categoryFlaws {category : Text} {content : Json} {fault : Fault}
    (h : .fault fault ∈ categoryFlaws category content) : fault = .infiniteInteger := by
  unfold categoryFlaws at h
  split at h
  . obtain ⟨⟨application, operations⟩, -, hmem⟩ := List.mem_flatMap.1 h
    exact eq_infiniteInteger_of_mem_applicationFlaws hmem
  . simp at h

theorem eq_infiniteInteger_of_mem_flaws {fields : Fields} {fault : Fault}
    (h : .fault fault ∈ flaws (.object fields)) : fault = .infiniteInteger := by
  unfold flaws at h
  dsimp only [Json.asObject] at h
  split at h
  . obtain ⟨⟨category, content⟩, -, hmem⟩ := List.mem_flatMap.1 h
    exact eq_infiniteInteger_of_mem_categoryFlaws hmem
  . simp at h

theorem flaws_of_ne_object {document : Json} (h : ∀ fields, document ≠ .object fields) :
    ∃ fault, flaws document = [.fault fault] := by
  cases document with
  | object fields => exact absurd rfl (h fields)
  | _ => exact ⟨_, rfl⟩

theorem isTold_unreadable : Failure.unreadable.IsTold :=
  ⟨nofun, rfl⟩

theorem not_isTold_fault (fault : Fault) : ¬(Failure.fault fault).IsTold :=
  fun h => h.1 fault rfl

theorem exists_of_escapes {content : Option String} (h : Escapes content) :
    ∃ f, (fileFlaws content).head? = some f ∧ ¬f.IsTold := by
  cases h with
  | @excess text fault read => exact ⟨.fault fault, by simp [fileFlaws, read], not_isTold_fault fault⟩
  | @noObject text document read ne_object =>
    obtain ⟨fault, hflaws⟩ := flaws_of_ne_object ne_object
    exact ⟨.fault fault, by simp [fileFlaws, read, hflaws], not_isTold_fault fault⟩
  | @flaw text document f read first unlike =>
    refine ⟨f, by simp only [fileFlaws, read, first], ?_⟩
    rintro ⟨hfault, hwhole⟩
    rcases unlike with hinfinite | hbroken
    . exact hfault _ hinfinite
    . rw [hwhole] at hbroken
      cases hbroken

theorem escapes_of_not_isTold {content : Option String} {f : Failure}
    (hfirst : (fileFlaws content).head? = some f) (hf : ¬f.IsTold) : Escapes content := by
  cases content with
  | none =>
    cases hfirst
    exact absurd isTold_unreadable hf
  | some text =>
    unfold fileFlaws at hfirst
    cases hread : Json.ofText text with
    | error r =>
      simp only [hread] at hfirst
      cases r with
      | malformed =>
        cases hfirst
        exact absurd isTold_unreadable hf
      | excess fault => exact .excess hread
    | ok document =>
      simp only [hread] at hfirst
      cases hwhole : f.message.isWhole with
      | false => exact .flaw hread hfirst (.inr hwhole)
      | true =>
        -- Only a fault is not told of then, and an object has but one.
        obtain ⟨fault, rfl⟩ : ∃ fault, f = .fault fault :=
          Classical.byContradiction fun hne =>
            hf ⟨fun fault heq => hne ⟨fault, heq⟩, hwhole⟩
        cases document with
        | object fields =>
          rw [eq_infiniteInteger_of_mem_flaws (List.mem_of_mem_head? hfirst)] at hfirst
          exact .flaw hread hfirst (.inl rfl)
        | _ => exact .noObject hread nofun

theorem escapes_iff {content : Option String} :
    Escapes content ↔ ∃ f, ofFile content = .error f ∧ ¬f.IsTold := by
  simp only [ofFile_eq_error_iff]
  exact ⟨exists_of_escapes, fun ⟨_, hfirst, hf⟩ => escapes_of_not_isTold hfirst hf⟩

end Catalog

section Web

open Http

def Http.Response.TellsNoCatalog (r : Response) : Prop :=
  r.status = 503 ∧ r.body.field "error" = .ok "CatalogLoadError"

namespace Http.Response

theorem not_tellsNoCatalog_sent {r : Response} (h : r.status ≠ 503) : ¬r.sent.TellsNoCatalog := by
  unfold sent
  split
  . exact fun htold => nomatch htold.1
  . exact fun htold => h htold.1

theorem isSendable_refused_iff {kind : ErrorKind} {message : Text} :
    (refused kind message []).body.isSendable = true ↔ message.isWhole = true := by
  simp [refused, Json.isSendable, Json.haveSendable, Text.isWhole_whole]

theorem tellsNoCatalog_refused_iff {message : Text} :
    (refused .noCatalog message []).sent.TellsNoCatalog ↔ message.isWhole = true := by
  cases hwhole : message.isWhole with
  | true =>
    rw [sent_of_isSendable (isSendable_refused_iff.mpr hwhole)]
    exact iff_of_true ⟨rfl, rfl⟩ rfl
  | false =>
    have hbody : (refused .noCatalog message []).body.isSendable = false := by
      rw [← Bool.not_eq_true, isSendable_refused_iff, hwhole]
      decide
    refine iff_of_false (fun htold => ?_) (by decide)
    have hstatus := htold.1
    rw [status_sent hbody] at hstatus
    cases hstatus

theorem tellsNoCatalog_noCatalog_iff {f : Catalog.Failure} :
    (noCatalog f).sent.TellsNoCatalog ↔ f.IsTold := by
  cases f with
  | fault fault =>
    exact iff_of_false (not_tellsNoCatalog_sent nofun) (Catalog.not_isTold_fault fault)
  | _ => exact tellsNoCatalog_refused_iff.trans (and_iff_right nofun).symm

end Http.Response

namespace Http.Application

variable (app : Application) (archive : Archive) (body : Json)

theorem status_compose (catalog : Catalog) (description : String) (name : Json) :
    (app.compose archive catalog description name).2.status ≠ 503 := by
  unfold compose
  split
  . nofun
  . split
    . unfold created
      split <;> nofun
    . unfold Response.ofFailure
      split <;> nofun

theorem answer_of_noCatalog {f : Catalog.Failure} (h : app.catalog = .error f) :
    (app.answer archive (.compose body)).2 = (Response.noCatalog f).sent ∧
    (app.answer archive .catalog).2 = (Response.noCatalog f).sent := by
  unfold answer prepare withCatalog
  rw [h]
  exact ⟨rfl, rfl⟩

theorem not_tellsNoCatalog_answer {catalog : Catalog} (h : app.catalog = .ok catalog) :
    ¬(app.answer archive (.compose body)).2.TellsNoCatalog ∧
    ¬(app.answer archive .catalog).2.TellsNoCatalog := by
  unfold answer prepare withCatalog
  rw [h]
  constructor
  . apply Response.not_tellsNoCatalog_sent
    split
    . split
      . apply status_compose
      . unfold Response.ofFailure
        nofun
    . nofun
  . exact Response.not_tellsNoCatalog_sent nofun

end Http.Application

end Web

namespace Console

def Outcome.TellsNoCatalog (o : Outcome) : Prop :=
  o.ending = .failed ∧ ∃ details, o.errors = "✗ Catalog could not be loaded\n" ++ details

open Markup (IsFaithful)

theorem isFaithful_noCatalog : IsFaithful (Text.glyphs "Catalog could not be loaded") :=
  Markup.isFaithful_of_isQuiet (isQuiet_of_isTame (by decide) (by decide))

theorem isFaithful_rejected : IsFaithful (Text.glyphs "Blueprint rejected") :=
  Markup.isFaithful_of_isQuiet (isQuiet_of_isTame (by decide) (by decide))

theorem errors_deliver (o : Outcome) (c : Compilation) (target : Option String) :
    (deliver o c target).errors = o.errors := by
  unfold deliver
  split
  . rfl
  . split
    . rfl
    . split
      . rfl
      . split
        . obtain ⟨output, ending, hsay⟩ := exists_say _ _
          rw [hsay]
        . rfl

variable (t : Tuning) (file : String) (options : ComposeOptions)

theorem tellsNoCatalog_fail (errors : List Text) :
    (Outcome.fail {} "Catalog could not be loaded" errors).TellsNoCatalog := by
  obtain ⟨told, htold⟩ := exists_fail_titled isFaithful_noCatalog {} errors
  rw [htold]
  refine ⟨rfl, told, ?_⟩
  dsimp only
  rw [String.empty_append, String.append_left_inj]
  rfl

theorem tellsNoCatalog_compose {f : Catalog.Failure} (h : ∀ fault, f ≠ .fault fault) :
    (compose t file (.error f) options).TellsNoCatalog := by
  rw [compose_of_noCatalog t file options h]
  exact tellsNoCatalog_fail _

theorem not_tellsNoCatalog_of_errors {o : Outcome} (h : o.errors = "") : ¬o.TellsNoCatalog := by
  rintro ⟨-, details, hdetails⟩
  rw [h] at hdetails
  simpa using congrArg String.toList hdetails

theorem not_tellsNoCatalog_compose (catalog : Catalog) :
    ¬(compose t file (.ok catalog) options).TellsNoCatalog := by
  unfold compose
  dsimp only
  split
  . obtain ⟨told, htold⟩ := exists_fail_titled isFaithful_rejected _ _
    rw [htold]
    rintro ⟨-, details, hdetails⟩
    -- The titles differ in their first letters.
    have hhead := congrArg (fun s : String => s.toList[2]?) hdetails
    simp [String.toList_append] at hhead
  . exact fun h => nomatch h.1
  . exact fun h => nomatch h.1
  . exact not_tellsNoCatalog_of_errors (errors_deliver _ _ _)

end Console

namespace Catalog

open Console (ComposeOptions)

structure IsReported (content : Option String) (app : Http.Application) (archive : Archive)
    (body : Json) (t : Tuning) (file : String) (options : ComposeOptions) : Prop where
  read : ∀ fault, ofFile content ≠ .error (.fault fault)
  composed : (({ app with catalog := ofFile content }.answer archive
    (.compose body)).2).TellsNoCatalog ↔ ¬IsAcceptable content
  listed : (({ app with catalog := ofFile content }.answer archive .catalog).2).TellsNoCatalog ↔
    ¬IsAcceptable content
  printed : (Console.compose t file (ofFile content) options).TellsNoCatalog ↔
    ¬IsAcceptable content

/-- Of a file it is told that it holds no catalog, unless it escapes. -/
theorem isReported_iff (content : Option String) (app : Http.Application) (archive : Archive)
    (body : Json) (t : Tuning) (file : String) (options : ComposeOptions) :
    ((∃ catalog, ofFile content = .ok catalog) ↔ IsAcceptable content) ∧
    (IsReported content app archive body t file options ↔ ¬Escapes content) := by
  refine ⟨exists_ofFile_iff content, ?_⟩
  rw [escapes_iff]
  cases h : ofFile content with
  | ok catalog =>
    have hacceptable := (exists_ofFile_iff content).mp ⟨catalog, h⟩
    have hanswer := Http.Application.not_tellsNoCatalog_answer
      { app with catalog := ofFile content } archive body h
    have hcompose := Console.not_tellsNoCatalog_compose t file options catalog
    rw [← h] at hcompose
    refine iff_of_true ⟨by simp [h], ?_, ?_, ?_⟩ (by simp)
    . exact iff_of_false hanswer.1 (not_not_intro hacceptable)
    . exact iff_of_false hanswer.2 (not_not_intro hacceptable)
    . exact iff_of_false hcompose (not_not_intro hacceptable)
  | error f =>
    have hacceptable : ¬IsAcceptable content := by
      rw [← exists_ofFile_iff, h]
      simp
    have hanswer := Http.Application.answer_of_noCatalog
      { app with catalog := ofFile content } archive body h
    constructor
    . rintro hreported ⟨_, ⟨⟩, hf⟩
      have htold := hreported.composed.mpr hacceptable
      rw [hanswer.1, Http.Response.tellsNoCatalog_noCatalog_iff] at htold
      exact hf htold
    . intro hescapes
      have hf : f.IsTold := Classical.byContradiction fun hf => hescapes ⟨f, rfl, hf⟩
      have htold := Http.Response.tellsNoCatalog_noCatalog_iff.mpr hf
      have hcompose := Console.tellsNoCatalog_compose t file options hf.1
      rw [← h] at hcompose
      refine ⟨?_, ?_, ?_, ?_⟩
      . intro fault heq
        rw [h] at heq
        exact hf.1 fault (Except.error.inj heq)
      . exact iff_of_true (hanswer.1 ▸ htold) hacceptable
      . exact iff_of_true (hanswer.2 ▸ htold) hacceptable
      . exact iff_of_true hcompose hacceptable

/-- A file that holds an array ends the console in a crash and the web interface in an error. -/
theorem not_isReported_of_array :
    ¬IsAcceptable (some "[]") ∧
    ofFile (some "[]") = .error (.fault (.lacksOperation "list" "get")) ∧
    ({ Http.Application.exampleApplication 3 with catalog := ofFile (some "[]") }.answer .empty
      .catalog).2.status = 500 ∧
    (Console.compose {} "a.json" (ofFile (some "[]")) { description := "post to slack" }).ending =
      .crashed (.fault (.lacksOperation "list" "get")) ∧
    ¬IsReported (some "[]") (Http.Application.exampleApplication 3) .empty
      (.object [("description", "post to slack")]) {} "a.json"
      { description := "post to slack" } := by
  have hread : ofFile (some "[]") = .error (.fault (.lacksOperation "list" "get")) :=
    failure?_eq_some_iff.1 (by decide +kernel)
  refine ⟨?_, hread, ?_, ?_, fun hreported => hreported.read _ hread⟩
  . rw [← exists_ofFile_iff, hread]
    simp
  . rw [hread]
    decide +kernel
  . rw [hread]
    rfl

end Catalog

end Automation
