import Automation.Proofs.Archive.Repeat
import Automation.Proofs.Http.Views

/-!
This module contains what it comes to when a record is composed once more: a record of another id is
added that shows what the first one shows, all others are left as they are, and so on with the
record that was added.
-/

namespace Automation.Http.Application

variable {app : Application} {archive next : Archive} {r s : Archive.Record}

structure IsRecomposable (app : Application) (archive : Archive) : Prop where
  consistent : archive.IsConsistent app.tuning app.catalog
  repeatable : archive.IsRepeatable app.tuning

theorem answer_isRepeatable (h : archive.IsRepeatable app.tuning) (request : Request) :
    (app.answer archive request).1.IsRepeatable app.tuning := by
  have hsteps := steps_prepare app archive request
  change (app.prepare archive request).1.IsRepeatable app.tuning
  generalize app.prepare archive request = result at hsteps
  cases hsteps with
  | silent => exact h
  | composed catalog text title next record _ _ hshort hcompose =>
    have hnext : (archive.compose app.tuning catalog text title).1.IsRepeatable app.tuning :=
      h.compose hshort
    rwa [hcompose] at hnext
  | failed catalog text title next f hshort hcompose =>
    have hnext : (archive.compose app.tuning catalog text title).1.IsRepeatable app.tuning :=
      h.compose hshort
    rwa [hcompose] at hnext

theorem IsRecomposable.answer (h : app.IsRecomposable archive) (hnow : app.now.isSendable = true)
    (request : Request) : app.IsRecomposable (app.answer archive request).1 where
  consistent := (answer_spec h.consistent hnow request).1
  repeatable := answer_isRepeatable h.repeatable request

theorem run_isRecomposable (hnow : app.now.isSendable = true) (requests : List Request) :
    app.IsRecomposable (app.run requests) := by
  apply run_induction (P := app.IsRecomposable)
  . exact ⟨Archive.empty_isConsistent .., Archive.empty_isRepeatable _⟩
  . intro archive request h
    exact h.answer hnow request

structure ShowsAgain (app : Application) (archive next : Archive) (r s : Archive.Record) : Prop where
  record : s = { r with
    id := s.id
    report := r.report.map fun report => { report with blueprintId := s.id.text } }
  summary : (app.answer next (.summary s.id)).2 = .ok (app.summary s)
  artifact : (app.answer next (.artifact s.id)).2 = (app.answer archive (.artifact r.id)).2
  graph : (app.answer next (.graph s.id)).2 = (app.answer archive (.graph r.id)).2
  report : (app.answer next (.report s.id)).2 =
    match s.report with
    | some report => (Response.ok report.toJson).sent
    | none => .notFound "Report not generated"

theorem graph_of_repeats (h : archive.Repeats next r s) : graph next s.id = graph archive r.id := by
  unfold graph
  rw [h.modules, h.connections, List.map_map, List.map_map]
  rfl

theorem showsAgain_of_mem (hnow : app.now.isSendable = true) (h : app.IsRecomposable archive)
    (hnext : app.IsRecomposable next) (hr : r ∈ archive.records) (hs : s ∈ next.records)
    (hdescription : s.description = r.description) (hname : s.name = r.name) :
    app.ShowsAgain archive next r s := by
  have hrepeats := Archive.repeats_of_keeps (h.consistent.kept r hr) (hnext.consistent.kept s hs)
    hdescription hname
  have hfound := withRecord_of_mem h.consistent hr
  have hfound' := withRecord_of_mem hnext.consistent hs
  exact {
    record := hrepeats.record
    summary := by
      rw [answer_summary hnext.consistent hs (hnext.consistent.plain_of_mem hs) hnow]
    artifact := by
      have hstatus : s.status = r.status := congrArg (·.status) hrepeats.record
      have hartifact : s.artifact = r.artifact := congrArg (·.artifact) hrepeats.record
      change (withRecord next s.id _).sent = (withRecord archive r.id _).sent
      rw [hfound, hfound', hstatus, hartifact]
    graph := by
      change (withRecord next s.id _).sent = (withRecord archive r.id _).sent
      rw [hfound, hfound', graph_of_repeats hrepeats]
    report := by
      change (withRecord next s.id _).sent = _
      rw [hfound']
      cases s.report with
      | some report => rfl
      | none => rfl }

def views (app : Application) (archive : Archive) (id : RecordId) : List Response :=
  [.summary id, .artifact id, .graph id, .report id].map fun request =>
    (app.answer archive request).2

theorem views_of_mem (hnow : app.now.isSendable = true) (h : app.IsRecomposable archive)
    (hnext : app.IsRecomposable next) (hr : r ∈ archive.records) (hs : r ∈ next.records) :
    app.views next r.id = app.views archive r.id := by
  have hshown := showsAgain_of_mem hnow h h hr hr rfl rfl
  have hagain := showsAgain_of_mem hnow h hnext hr hs rfl rfl
  unfold views
  simp only [List.map_cons, List.map_nil, hagain.summary, hshown.summary, hagain.artifact,
    hagain.graph, hagain.report, hshown.report]

structure Recomposes (app : Application) (archive : Archive) (r s : Archive.Record) : Prop where
  answer : (app.answer archive (.recompose r.id)).2 = app.created s
  records : (app.answer archive (.recompose r.id)).1.records = archive.records ++ [s]
  files : (app.answer archive (.recompose r.id)).1.files = archive.files
  fresh : ∀ q ∈ archive.records, q.id ≠ s.id
  shown : app.ShowsAgain archive (app.answer archive (.recompose r.id)).1 r s
  unchanged : ∀ q ∈ archive.records,
    app.views (app.answer archive (.recompose r.id)).1 q.id = app.views archive q.id

theorem prepare_recompose (h : app.IsRecomposable archive) (hr : r ∈ archive.records) :
    ∃ added, app.prepare archive (.recompose r.id) = (added.1, app.created added.2) ∧
      archive.ComposesAgain r added := by
  obtain ⟨catalog, added, hcatalog, hcompose, hadded⟩ :=
    Archive.compose_again h.repeatable hr (h.consistent.kept r hr)
  refine ⟨added, ?_, hadded⟩
  unfold prepare withCatalog
  rw [hcatalog]
  dsimp only
  rw [Archive.find?_of_mem h.consistent hr]
  dsimp only
  unfold compose
  rw [if_neg (Int.not_lt.2 (h.repeatable.short r hr)), hcompose]
  rfl

theorem exists_recomposes (hnow : app.now.isSendable = true) (h : app.IsRecomposable archive)
    (hr : r ∈ archive.records) : ∃ s, app.Recomposes archive r s := by
  obtain ⟨added, hprepare, hadded⟩ := prepare_recompose h hr
  have hnext := h.answer hnow (.recompose r.id)
  have harchive : (app.answer archive (.recompose r.id)).1 = added.1 := congrArg (·.1) hprepare
  have hrecords := hadded.records
  rw [← harchive] at hrecords
  have hs : added.2 ∈ (app.answer archive (.recompose r.id)).1.records := by
    rw [hrecords]
    exact List.mem_append_right _ (List.mem_singleton_self _)
  refine ⟨added.2, ?_⟩
  exact {
    answer := by
      have hsendable := isSendable_created (hnext.consistent.plain_of_mem hs) hnow
      rw [answer_of_isSendable (by rwa [hprepare]), hprepare]
    records := hrecords
    files := by rw [harchive, hadded.files]
    fresh := by
      intro q hq
      rw [hadded.id]
      exact (h.consistent.records q hq).ne_nextId.symm
    shown := showsAgain_of_mem hnow h hnext hr hs hadded.description hadded.name
    unchanged := by
      intro q hq
      apply views_of_mem hnow h hnext hq
      rw [hrecords]
      exact List.mem_append_left _ hq }

/-- The records that come from a record when it is composed once more, and what comes from it after
that, with any other requests in between. -/
inductive Descends (app : Application) (archive : Archive) (r : Archive.Record) :
    Archive → Archive.Record → Prop where
  | self : Descends app archive r archive r
  | later {next : Archive} {s : Archive.Record} (h : Descends app archive r next s)
      (request : Request) : Descends app archive r (app.answer next request).1 s
  | recomposed {next : Archive} {s added : Archive.Record} (h : Descends app archive r next s)
      (hadded : (app.answer next (.recompose s.id)).1.records = next.records ++ [added]) :
    Descends app archive r (app.answer next (.recompose s.id)).1 added

theorem mem_records_answer (h : app.IsRecomposable archive) (hnow : app.now.isSendable = true)
    (hr : r ∈ archive.records) (request : Request) :
    r ∈ (app.answer archive request).1.records := by
  have hadds := (answer_spec h.consistent hnow request).2
  cases htold : (app.answer archive request).2.tellsRecord with
  | false =>
    rw [(hadds.silent htold).records]
    exact hr
  | true =>
    obtain ⟨catalog, text, title, added, _, _, _, houtcome⟩ := hadds.told htold
    rw [houtcome.adds.records]
    exact List.mem_append_left _ hr

namespace Descends

variable (h : Descends app archive r next s)
include h

/-- What a record is told by goes over to all that comes from it. -/
theorem inherits (hnow : app.now.isSendable = true) (harchive : app.IsRecomposable archive)
    (hr : r ∈ archive.records) :
    app.IsRecomposable next ∧ s ∈ next.records ∧ s.description = r.description ∧ s.name = r.name := by
  induction h with
  | self => exact ⟨harchive, hr, rfl, rfl⟩
  | later _ request ih =>
    obtain ⟨hnext, hs, hsame⟩ := ih
    exact ⟨hnext.answer hnow request, mem_records_answer hnext hnow hs request, hsame⟩
  | @recomposed next s added _ hadded ih =>
    obtain ⟨hnext, hs, hdescription, hname⟩ := ih
    obtain ⟨other, hother⟩ := exists_recomposes hnow hnext hs
    have hsame : added = other := by
      simpa using hadded.symm.trans hother.records
    have hrecord := hother.shown.record
    rw [← hsame] at hrecord
    refine ⟨hnext.answer hnow _, ?_, ?_, ?_⟩
    . rw [hadded]
      exact List.mem_append_right _ (List.mem_singleton_self _)
    . exact (congrArg (·.description) hrecord).trans hdescription
    . exact (congrArg (·.name) hrecord).trans hname

end Descends

/--
After any requests, each record and all that comes from it show the same but for the ids, and each
of them can be composed once more: that adds one record of a new id and changes nothing else.
-/
theorem run_recomposes (app : Application) (hnow : app.now.isSendable = true)
    (requests : List Request) (r : Archive.Record) (hr : r ∈ (app.run requests).records)
    (next : Archive) (s : Archive.Record) (h : Descends app (app.run requests) r next s) :
    app.ShowsAgain (app.run requests) next r s ∧ ∃ added, app.Recomposes next s added := by
  have hsettled := run_isRecomposable hnow requests
  obtain ⟨hnext, hs, hdescription, hname⟩ := h.inherits hnow hsettled hr
  exact ⟨showsAgain_of_mem hnow hsettled hnext hr hs hdescription hname,
    exists_recomposes hnow hnext hs⟩

def exampleRequests : List Request :=
  [exampleRequest, .compose (.object [("description", "?!")])]

theorem run_recomposes_of_exampleRequests :
    ∃ r s, ((exampleApplication 3).run exampleRequests).records = [r, s] ∧
      r.status = .composed ∧ s.status = .rejected ∧
      (∃ added, (exampleApplication 3).Recomposes ((exampleApplication 3).run exampleRequests) s
        added) ∧
      ∃ added, (exampleApplication 3).Recomposes ((exampleApplication 3).run exampleRequests) r added ∧
        ∃ later, (exampleApplication 3).Recomposes ((exampleApplication 3).answer
          ((exampleApplication 3).run exampleRequests) (.recompose r.id)).1 added later := by
  have hstatuses : ((exampleApplication 3).run exampleRequests).records.map (·.status) =
      [.composed, .rejected] := by
    decide +kernel
  obtain ⟨r, rest, hrecords, hr, hrest⟩ := List.map_eq_cons_iff.1 hstatuses
  obtain ⟨s, rest, rfl, hs, hnone⟩ := List.map_eq_cons_iff.1 hrest
  cases List.map_eq_nil_iff.1 hnone
  have hmem : r ∈ ((exampleApplication 3).run exampleRequests).records := by simp [hrecords]
  have hmem' : s ∈ ((exampleApplication 3).run exampleRequests).records := by simp [hrecords]
  obtain ⟨-, hrejected⟩ :=
    run_recomposes (exampleApplication 3) rfl exampleRequests s hmem' _ s .self
  obtain ⟨-, added, hadded⟩ :=
    run_recomposes (exampleApplication 3) rfl exampleRequests r hmem _ r .self
  obtain ⟨-, hlater⟩ := run_recomposes (exampleApplication 3) rfl exampleRequests r hmem _ added
    (.recomposed .self hadded.records)
  exact ⟨r, s, hrecords, hr, hs, hrejected, added, hadded, hlater⟩

end Automation.Http.Application
