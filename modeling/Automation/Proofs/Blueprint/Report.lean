import Automation.Blueprint.Report
import Automation.Proofs.Blueprint.RoundTrip
import Automation.Proofs.Json.Sendable
import Automation.Proofs.Outcome

/-!
This module contains what the report on a blueprint says and that it can be sent: the tokens that it
lists and the services that it counts are parts of texts without lone halves.
-/

namespace Automation

namespace Placeholder

open Json (Unbroken)

theorem unbroken_of_subset {gs hs : List Glyph} (h : Unbroken hs) (hsub : gs ⊆ hs) :
    Unbroken gs := by
  intro g hg
  exact h g (hsub hg)

theorem stripWhere_subset (p : α → Bool) (xs : List α) : Text.stripWhere p xs ⊆ xs := by
  intro x hx
  unfold Text.stripWhere at hx
  rw [List.mem_reverse] at hx
  have hrest := (List.dropWhile_sublist _).subset hx
  rw [List.mem_reverse] at hrest
  exact (List.dropWhile_sublist _).subset hrest

theorem trim_subset (inner : List Glyph) : trim inner ⊆ inner := by
  unfold trim
  split
  . exact List.drop_subset _ _
  . apply stripWhere_subset

theorem at?_subset {gs token rest : List Glyph} (h : at? gs = some (token, rest)) : token ⊆ gs := by
  unfold at? at h
  split at h
  . rename_i gs
    dsimp only at h
    split at h
    . cases h
    . simp only [Option.some.injEq, Prod.mk.injEq] at h
      rw [← h.1]
      intro g hg
      have hmem := (List.takeWhile_sublist _).subset (trim_subset _ hg)
      exact List.mem_cons_of_mem _ (List.mem_cons_of_mem _ hmem)
    . cases h
  . cases h

theorem isWhole_of_mem_inText {t : Text} (h : t.isWhole = true) :
    ∀ token ∈ inText t, token.isWhole = true := by
  have hgo : ∀ (gs : List Glyph) (skip : Nat), Unbroken gs →
      ∀ token ∈ inText.go skip gs, token.isWhole = true := by
    intro gs
    induction gs with
    | nil =>
      intro skip _ token htoken
      cases htoken
    | cons g gs ih =>
      intro skip hgs token htoken
      have hrest := unbroken_of_subset hgs (List.subset_cons_self g gs)
      unfold inText.go at htoken
      split at htoken
      . exact ih _ hrest token htoken
      . split at htoken
        . rename_i hat
          rcases List.mem_cons.1 htoken with rfl | htoken
          . exact (unbroken_of_subset hgs (at?_subset hat)).isWhole_ofGlyphs
          . exact ih _ hrest token htoken
        . exact ih _ hrest token htoken
  exact hgo t.glyphs 0 (Unbroken.glyphs h)

theorem mem_inItems {token : Text} {xs : List Json} :
    token ∈ inItems xs ↔ ∃ x ∈ xs, token ∈ inJson x := by
  induction xs with
  | nil => simp [inItems]
  | cons x xs ih => simp [inItems, ih]

theorem mem_inFields {token : Text} {fs : Fields} :
    token ∈ inFields fs ↔ ∃ f ∈ fs, token ∈ inJson f.2 := by
  induction fs with
  | nil => simp [inFields]
  | cons f fs ih => simp [inFields, ih]

theorem isWhole_of_mem_inJson {v : Json} (h : v.isSendable = true) :
    ∀ token ∈ inJson v, token.isWhole = true := by
  induction v using Json.inductionOn with
  | string t => exact isWhole_of_mem_inText h
  | array xs ih =>
    rw [Json.isSendable, Json.areSendable_iff] at h
    intro token htoken
    rw [inJson, mem_inItems] at htoken
    obtain ⟨x, hx, htoken⟩ := htoken
    exact ih x hx (h x hx) token htoken
  | object fs ih =>
    rw [Json.isSendable, Json.haveSendable_iff] at h
    intro token htoken
    rw [inJson, mem_inFields] at htoken
    obtain ⟨f, hf, htoken⟩ := htoken
    exact ih f hf (h f hf).2 token htoken
  | _ =>
    intro token htoken
    cases htoken

theorem isWhole_of_mem_inNode {n : Node} (h : n.toJson.isSendable = true) :
    ∀ token ∈ inNode n, token.isWhole = true := by
  unfold Node.toJson at h
  rw [Json.isSendable, Json.haveSendable_iff] at h
  unfold Node.toFields at h
  dsimp only at h
  intro token htoken
  unfold inNode at htoken
  rw [List.mem_append, List.mem_append] at htoken
  rcases htoken with (htoken | htoken) | htoken
  . apply isWhole_of_mem_inJson (v := .object n.parameters) _ token htoken
    exact (h ("parameters", .object n.parameters) (by simp)).2
  . rcases Blueprint.optionalField_cases "mapper" n.mapper with ⟨hmapper, _⟩ | hmapper
    . rw [hmapper] at htoken
      cases htoken
    . apply isWhole_of_mem_inJson _ token htoken
      apply (h ("mapper", n.mapper) _).2
      simp [hmapper]
  . cases hroutes : n.routes with
    | none =>
      rw [hroutes] at htoken
      cases htoken
    | some routes =>
      rw [hroutes] at htoken
      apply isWhole_of_mem_inJson (v := .array (routes.map Route.toJson)) _ token htoken
      apply (h ("routes", .array (routes.map Route.toJson)) _).2
      simp [hroutes]

end Placeholder

theorem isWhole_servicePart {t : Text} (h : t.isWhole = true) :
    (servicePart t).isWhole = true := by
  unfold servicePart
  apply Json.Unbroken.isWhole_ofGlyphs
  apply Placeholder.unbroken_of_subset (Json.Unbroken.glyphs h)
  exact (List.takeWhile_sublist _).subset

theorem mem_countName {counts : List (Text × Nat)} {name : Text} {c : Text × Nat}
    (h : c ∈ countName counts name) : c.1 = name ∨ c.1 ∈ counts.map fun c => c.1 := by
  induction counts with
  | nil =>
    rw [countName, List.mem_singleton] at h
    exact .inl (by rw [h])
  | cons d ds ih =>
    unfold countName at h
    split at h
    . rcases List.mem_cons.1 h with rfl | h
      . exact .inr (List.mem_cons_self ..)
      . exact .inr (List.mem_cons_of_mem _ (List.mem_map_of_mem h))
    . rcases List.mem_cons.1 h with rfl | h
      . exact .inr (List.mem_cons_self ..)
      . rcases ih h with hname | hmem
        . exact .inl hname
        . exact .inr (List.mem_cons_of_mem _ hmem)

theorem isWhole_of_mem_counts {services : List Text} {counts : List (Text × Nat)}
    (hservices : ∀ s ∈ services, s.isWhole = true) (hcounts : ∀ c ∈ counts, c.1.isWhole = true) :
    ∀ c ∈ services.foldl countName counts, c.1.isWhole = true := by
  induction services generalizing counts with
  | nil => exact hcounts
  | cons s ss ih =>
    rw [List.forall_mem_cons] at hservices
    apply ih hservices.2
    intro c hc
    rcases mem_countName hc with hname | hmem
    . rw [hname]
      exact hservices.1
    . obtain ⟨d, hd, hname⟩ := List.mem_map.1 hmem
      rw [← hname]
      exact hcounts d hd

namespace Blueprint

variable {b : Blueprint}

theorem services_eq (h : ∀ n ∈ b.nodes, ∃ s : String, n.moduleType = .string s) :
    ∃ services, b.services = .ok services ∧ ∀ s ∈ services, s.isWhole = true := by
  unfold services
  generalize b.nodes = nodes at h
  induction nodes with
  | nil => exact ⟨[], rfl, by simp⟩
  | cons n nodes ih =>
    rw [List.forall_mem_cons] at h
    obtain ⟨⟨s, hs⟩, hnodes⟩ := h
    obtain ⟨services, hservices, hwhole⟩ := ih hnodes
    refine ⟨servicePart s :: services, ?_, ?_⟩
    . rw [List.mapM_cons, hservices, hs]
      rfl
    . rw [List.forall_mem_cons]
      exact ⟨isWhole_servicePart rfl, hwhole⟩

theorem isSendable_counts {services : List Text} (h : ∀ s ∈ services, s.isWhole = true) :
    (Json.object ((services.foldl countName []).map fun c => (c.1, .int c.2))).isSendable = true := by
  have hcounts : ∀ c ∈ services.foldl countName [], c.1.isWhole = true :=
    isWhole_of_mem_counts h (by simp)
  rw [Json.isSendable, Json.haveSendable_iff]
  intro f hf
  obtain ⟨c, hc, rfl⟩ := List.mem_map.1 hf
  exact ⟨hcounts c hc, rfl⟩

theorem isSendable_placeholders (h : ∀ n ∈ b.nodes, n.toJson.isSendable = true) :
    (Json.array (b.placeholders.map .string)).isSendable = true := by
  rw [Json.isSendable, Json.areSendable_iff]
  intro x hx
  obtain ⟨token, htoken, rfl⟩ := List.mem_map.1 hx
  unfold placeholders at htoken
  rw [List.mem_mergeSort, List.mem_eraseDups, List.mem_flatMap] at htoken
  obtain ⟨n, hn, htoken⟩ := htoken
  exact Placeholder.isWhole_of_mem_inNode (h n hn) token htoken

theorem isSendable_standIns {fallbacks : List Fallback}
    (h : ∀ f ∈ fallbacks, f.moduleType.isSendable = true ∧ f.service.isSendable = true) :
    (Json.array (fallbacks.map fun f =>
      .object [("module", f.moduleType), ("service", f.service)])).isSendable = true := by
  rw [Json.isSendable, Json.areSendable_iff]
  intro x hx
  obtain ⟨f, hf, rfl⟩ := List.mem_map.1 hx
  simp [Json.isSendable, Json.haveSendable, h f hf]

theorem fallbacks_of_report {id : String} {fallbacks : List Fallback}
    {catalogVersion runtimeMs : Json} {report : Report}
    (h : b.report id fallbacks catalogVersion runtimeMs = .ok report) :
    report.fallbacks = fallbacks := by
  obtain ⟨services, _, h⟩ := bind_eq_ok.1 h
  cases h
  rfl

theorem report_renamed (b : Blueprint) (id other : String) (fallbacks : List Fallback)
    (catalogVersion runtimeMs : Json) :
    b.report other fallbacks catalogVersion runtimeMs =
      (b.report id fallbacks catalogVersion runtimeMs).map
        fun report => { report with blueprintId := other } := by
  unfold report
  cases b.services with
  | error f => rfl
  | ok services => rfl

theorem report_eq (hnodes : ∀ n ∈ b.nodes, ∃ s : String, n.moduleType = .string s) (id : String)
    (fallbacks : List Fallback) (catalogVersion runtimeMs : Json) :
    ∃ report, b.report id fallbacks catalogVersion runtimeMs = .ok report ∧
      report.blueprintId = id ∧ report.modules = b.nodes.length ∧
      report.connections = b.connections.length ∧
      ((∀ n ∈ b.nodes, n.toJson.isSendable = true) →
        (∀ f ∈ fallbacks, f.moduleType.isSendable = true ∧ f.service.isSendable = true) →
        catalogVersion.isSendable = true → runtimeMs.isSendable = true →
        report.toJson.isSendable = true) := by
  obtain ⟨services, hservices, hwhole⟩ := services_eq hnodes
  unfold report
  rw [hservices]
  refine ⟨_, rfl, rfl, rfl, rfl, ?_⟩
  intro hsendable hfallbacks hversion hruntime
  have hcounts := isSendable_counts hwhole
  have hplaceholders := isSendable_placeholders hsendable
  have hstandIns := isSendable_standIns hfallbacks
  simp only [Report.toJson, Json.isSendable, Json.haveSendable] at *
  simp [hcounts, hplaceholders, hstandIns, hversion, hruntime]

end Blueprint

end Automation
