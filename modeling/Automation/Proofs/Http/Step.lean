import Automation.Http
import Automation.Proofs.Archive.Step

/-!
This module contains the step of the web interface: what a request adds to the archive is what its
answer tells, and nothing where the answer tells of no record.
-/

namespace Automation.Http

open Archive (IsAsked AddsNothing Addition)

namespace Response

theorem bodyFault?_eq_none_iff {body : Json} : bodyFault? body = none ↔ body.isSendable = true := by
  rw [Json.isSendable_iff, bodyFault?]
  cases body.isFinite with
  | false => simp
  | true => cases body.compact <;> simp [Text.encoded, Text.isWhole, Text.whole?]

theorem sent_of_isSendable {r : Response} (h : r.body.isSendable = true) : r.sent = r := by
  unfold sent
  rw [bodyFault?_eq_none_iff.2 h]

theorem status_sent {r : Response} (h : r.body.isSendable = false) : r.sent.status = 500 := by
  unfold sent
  split
  . rfl
  . rename_i hnone
    rw [bodyFault?_eq_none_iff, h] at hnone
    cases hnone

def tellsRecord (r : Response) : Bool :=
  match r.body with
  | .object fields => (r.status == 201 || r.status == 422) && Fields.has fields "id"
  | _ => false

theorem tellsRecord_sent {r : Response} (h : r.tellsRecord = false) :
    r.sent.tellsRecord = false := by
  unfold sent
  split
  . rfl
  . exact h

theorem tellsRecord_of_status {r : Response} (h : r.status ≠ 201 ∧ r.status ≠ 422) :
    r.tellsRecord = false := by
  unfold tellsRecord
  split
  . simp [h.1, h.2]
  . rfl

theorem tellsRecord_ofFailure (f : Compilation.Failure) : (ofFailure f).tellsRecord = false := by
  unfold ofFailure
  split
  . rfl
  . rfl
  . rfl

theorem tellsRecord_noCatalog (f : Catalog.Failure) : (noCatalog f).tellsRecord = false := by
  unfold noCatalog
  split
  . rfl
  . rfl

end Response

namespace Application

variable {app : Application} {archive next : Archive} {request : Request}

def asked (archive : Archive) : Request → Option (String × Json)
  | .compose body =>
    match readCompose body with
    | .ok (description, name) => description.whole?.map fun s => (s, name)
    | .error _ => none
  | .recompose id => (archive.find? id).map fun r => (r.description, r.name)
  | _ => none

inductive Steps (app : Application) (archive : Archive) (request : Request) :
    Archive × Response → Prop where
  | silent (r : Response) (h : r.tellsRecord = false) :
    Steps app archive request (archive, r)
  | composed (catalog : Catalog) (text : String) (title : Json) (next : Archive)
      (record : Archive.Record) (hcatalog : app.catalog = .ok catalog)
      (hasked : asked archive request = some (text, title))
      (hshort : (text.length : Int) ≤ app.tuning.maxDescriptionChars)
      (hcompose : archive.compose app.tuning catalog text title = (next, .ok record)) :
    Steps app archive request (next, app.created record)
  | failed (catalog : Catalog) (text : String) (title : Json) (next : Archive)
      (f : Compilation.Failure) (hshort : (text.length : Int) ≤ app.tuning.maxDescriptionChars)
      (hcompose : archive.compose app.tuning catalog text title = (next, .error f)) :
    Steps app archive request (next, .ofFailure f)

theorem steps_compose {catalog : Catalog} {text : String} {title : Json}
    (hcatalog : app.catalog = .ok catalog) (hasked : asked archive request = some (text, title)) :
    Steps app archive request (app.compose archive catalog text title) := by
  unfold compose
  split
  . exact .silent _ rfl
  . rename_i hshort
    split
    . rename_i hcompose
      exact .composed catalog text title _ _ hcatalog hasked (Int.not_lt.1 hshort) hcompose
    . rename_i hcompose
      exact .failed catalog text title _ _ (Int.not_lt.1 hshort) hcompose

theorem steps_withCatalog {answer : Catalog → Archive × Response}
    (h : ∀ catalog, app.catalog = .ok catalog → Steps app archive request (answer catalog)) :
    Steps app archive request (app.withCatalog archive answer) := by
  unfold withCatalog
  split
  . rename_i hcatalog
    exact h _ hcatalog
  . exact .silent _ (Response.tellsRecord_noCatalog _)

theorem tellsRecord_withRecord {id : RecordId} {answer : Archive.Record → Response}
    (h : ∀ r, (answer r).tellsRecord = false) :
    (withRecord archive id answer).tellsRecord = false := by
  unfold withRecord
  split
  . apply h
  . rfl

theorem tellsRecord_validate (body : Json) : (validate body).tellsRecord = false := by
  unfold validate
  split
  . split
    . rfl
    . split
      . rfl
      . rfl
  . rfl
  . rfl

theorem steps_prepare (app : Application) (archive : Archive) (request : Request) :
    Steps app archive request (app.prepare archive request) := by
  cases request with
  | compose body =>
    apply steps_withCatalog
    intro catalog hcatalog
    split
    . rename_i description name hread
      cases description with
      | whole s =>
        apply steps_compose hcatalog
        rw [asked, hread]
        rfl
      | broken => exact .silent _ (Response.tellsRecord_ofFailure _)
    . exact .silent _ rfl
  | recompose id =>
    apply steps_withCatalog
    intro catalog hcatalog
    split
    . rename_i r hfind
      apply steps_compose hcatalog
      rw [asked, hfind]
      rfl
    . exact .silent _ rfl
  | validate body => exact .silent _ (tellsRecord_validate body)
  | summary id =>
    apply Steps.silent
    apply tellsRecord_withRecord
    intro r
    rfl
  | artifact id =>
    apply Steps.silent
    apply tellsRecord_withRecord
    intro r
    split
    . exact Response.tellsRecord_of_status (by simp [Response.ok])
    . rfl
  | graph id =>
    apply Steps.silent
    apply tellsRecord_withRecord
    intro r
    rfl
  | report id =>
    apply Steps.silent
    apply tellsRecord_withRecord
    intro r
    split
    . rfl
    . rfl
  | catalog =>
    apply steps_withCatalog
    intro catalog _
    exact .silent _ rfl
  | health => exact .silent _ rfl

theorem isAsked_of_readCompose {body : Json} {description : Text} {name : Json}
    (h : readCompose body = .ok (description, name)) : IsAsked name := by
  unfold readCompose at h
  split at h
  . rename_i fields
    split at h
    . rename_i hfaults
      simp only [Except.ok.injEq, Prod.mk.injEq] at h
      have hname := (List.append_eq_nil_iff.1 hfaults).2
      unfold optionalTextFaults at hname
      rw [← h.2]
      split at hname
      . rename_i hnull
        exact .inl hnull
      . rename_i text htext
        exact .inr ⟨text, htext⟩
      . cases hname
    . cases h
  . cases h
  . cases h

theorem isAsked_of_asked {text : String} {title : Json}
    (h : archive.IsConsistent app.tuning app.catalog)
    (hasked : asked archive request = some (text, title)) : IsAsked title := by
  unfold asked at hasked
  split at hasked
  . split at hasked
    . rename_i hread
      obtain ⟨s, _, hs⟩ := Option.map_eq_some_iff.1 hasked
      cases hs
      exact isAsked_of_readCompose hread
    . cases hasked
  . obtain ⟨r, hr, hs⟩ := Option.map_eq_some_iff.1 hasked
    cases hs
    obtain ⟨s, hname⟩ := (h.plain_of_mem (Archive.mem_of_find? hr).1).name
    exact .inr ⟨s, hname⟩
  . cases hasked

theorem isSendable_summary {r : Archive.Record} (h : r.HasWholeTexts)
    (hnow : app.now.isSendable = true) : (app.summary r).isSendable = true := by
  obtain ⟨⟨s, hname⟩, hversion, herrors⟩ := h
  have htold : (Json.array (r.errors.map .string)).isSendable = true := by
    rw [Json.isSendable, Json.areSendable_iff]
    intro x hx
    obtain ⟨e, he, rfl⟩ := List.mem_map.1 hx
    exact herrors e he
  have href : (app.artifactRef r).isSendable = true := by
    unfold artifactRef
    split <;> rfl
  simp only [Json.isSendable] at htold
  simp [summary, Json.isSendable, Json.haveSendable, hname, hversion, htold, href, hnow]

theorem isSendable_created {r : Archive.Record} (h : r.HasWholeTexts)
    (hnow : app.now.isSendable = true) : (app.created r).body.isSendable = true := by
  unfold created
  split
  . exact isSendable_summary h hnow
  . have htold : Json.areSendable (r.errors.map .string) = true := by
      rw [Json.areSendable_iff]
      intro x hx
      obtain ⟨e, he, rfl⟩ := List.mem_map.1 hx
      exact h.errors e he
    simp [Json.isSendable, Json.haveSendable, htold]

theorem tellsRecord_created (app : Application) (r : Archive.Record) :
    (app.created r).tellsRecord = true := by
  unfold created
  split
  . rfl
  . rfl

theorem answer_of_isSendable (h : (app.prepare archive request).2.body.isSendable = true) :
    app.answer archive request = app.prepare archive request := by
  unfold answer
  rw [Prod.map, Response.sent_of_isSendable h]
  rfl

structure AddsAsTold (app : Application) (archive : Archive) (request : Request) : Prop where
  told : (app.answer archive request).2.tellsRecord = true →
    ∃ catalog text title r, app.catalog = .ok catalog ∧ asked archive request = some (text, title) ∧
      (app.answer archive request).2 = app.created r ∧
      Addition archive (app.answer archive request).1 app.tuning catalog text title r
  silent : (app.answer archive request).2.tellsRecord = false →
    AddsNothing archive (app.answer archive request).1

theorem addsAsTold_of_silent {r : Response} (hr : r.tellsRecord = false)
    (hanswer : app.answer archive request = (next, r.sent)) (hadds : AddsNothing archive next) :
    AddsAsTold app archive request := by
  have hsent := Response.tellsRecord_sent hr
  refine ⟨?_, ?_⟩
  . intro htold
    rw [hanswer, hsent] at htold
    cases htold
  . intro _
    rw [hanswer]
    exact hadds

theorem answer_spec (h : archive.IsConsistent app.tuning app.catalog)
    (hnow : app.now.isSendable = true) (request : Request) :
    (app.answer archive request).1.IsConsistent app.tuning app.catalog ∧
      AddsAsTold app archive request := by
  have hsteps := steps_prepare app archive request
  have hanswer : app.answer archive request =
      ((app.prepare archive request).1, (app.prepare archive request).2.sent) := rfl
  generalize app.prepare archive request = s at hsteps hanswer
  cases hsteps with
  | silent r hr =>
    rw [hanswer]
    exact ⟨h, addsAsTold_of_silent hr hanswer ⟨rfl, rfl⟩⟩
  | failed catalog text title next f _ hcompose =>
    obtain ⟨hnext, hadds⟩ := Archive.compose_failed_spec h hcompose
    rw [hanswer]
    exact ⟨hnext, addsAsTold_of_silent (Response.tellsRecord_ofFailure f) hanswer hadds⟩
  | composed catalog text title next record hcatalog hasked _ hcompose =>
    obtain ⟨hnext, haddition⟩ := Archive.compose_spec h hcatalog (isAsked_of_asked h hasked) hcompose
    have hsent : (app.created record).sent = app.created record :=
      Response.sent_of_isSendable (isSendable_created haddition.plain hnow)
    rw [hanswer, hsent]
    refine ⟨hnext, ?_, ?_⟩
    . intro _
      rw [hanswer, hsent]
      exact ⟨catalog, text, title, record, hcatalog, hasked, rfl, haddition⟩
    . intro hsilent
      rw [hanswer, hsent, tellsRecord_created] at hsilent
      cases hsilent

end Application

end Automation.Http
