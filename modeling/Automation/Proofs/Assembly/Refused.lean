import Automation.Proofs.Assembly.Operation
import Automation.Proofs.Blueprint.RoundTrip

/-!
This module contains what is left of an operation that was refused. Nothing is, with two exceptions:
a module that could not be made has used up its id, and a mapper that was merged stays merged when
the metadata beside it are no object.
-/

namespace Automation.Assembly

namespace Operation

def IsUnfit (a : Assembly) : Operation → Prop
  | .appendModule _ _ parameters mapper =>
    (∃ f, (parameters.orElse (.object [])).toFields = .error f) ∨
    (∃ f, objectOrNull mapper = .error f) ∨
    ∃ f, placement a.layoutSpacing a.nextId = .error f
  | .appendRouter given _ =>
    (∃ routes, given = .ok routes ∧ routes ≠ []) ∧
      ∃ f, placement a.layoutSpacing a.nextId = .error f
  | _ => False

/-- The mapper is merged before the metadata beside it are refused. -/
def IsHalved (a : Assembly) : Operation → Prop
  | .decorate id mapper metadata => a.Merges id mapper ∧ ¬ metadata.IsObjectOrNull
  | _ => False

def IsShapely : Operation → Prop
  | .appendModule _ _ parameters mapper => parameters.IsObjectOrNull ∧ mapper.IsObjectOrNull
  | .decorate _ _ metadata => metadata.IsObjectOrNull
  | _ => True

end Operation

inductive Remains (a : Assembly) : Operation → Assembly → Prop where
  | nothing {op : Operation} (h : a.stage.isFinal = true ∨ ¬ op.IsUnfit a ∧ ¬ op.IsHalved a) :
    Remains a op a
  | gap {op : Operation} (hopen : a.stage.isFinal = false) (hunfit : op.IsUnfit a) :
    Remains a op a.skipped
  | half {id mapper metadata merged : Json} {n : Node} (hopen : a.stage.isFinal = false)
    (hnode : a.blueprint.node? id = some n) (hmerged : mergeInto n.mapper mapper = .ok merged)
    (hmetadata : ¬ metadata.IsObjectOrNull) :
    Remains a (.decorate id mapper metadata) (a.withMapper id merged)

structure IsPlaced (spacing : Json) (a : Assembly) : Prop where
  spacing : a.layoutSpacing = spacing
  metadata : ∀ n ∈ a.nodes, ∃ fields, n.metadata = .object fields

theorem placement_eq_object {spacing metadata : Json} {id : Nat}
    (h : placement spacing id = .ok metadata) : ∃ fields, metadata = .object fields := by
  obtain ⟨x, _, h⟩ := bind_eq_ok.1 h
  cases h
  exact ⟨_, rfl⟩

theorem forall_mem_modifyNode {P : Node → Prop} {f : Node → Node} (hf : ∀ n, P n → P (f n))
    (id : Json) {nodes : List Node} (h : ∀ n ∈ nodes, P n) :
    ∀ n ∈ modifyNode id f nodes, P n := by
  induction nodes with
  | nil => exact h
  | cons n nodes ih =>
    rw [List.forall_mem_cons] at h
    unfold modifyNode
    split
    . rw [List.forall_mem_cons]
      exact ⟨hf n h.1, h.2⟩
    . rw [List.forall_mem_cons]
      exact ⟨h.1, ih h.2⟩

section

variable {spacing : Json} {a : Assembly}

theorem IsPlaced.appended (h : a.IsPlaced spacing) {n : Node}
    (hn : ∃ fields, n.metadata = .object fields) : (a.appended n).IsPlaced spacing where
  spacing := h.spacing
  metadata := by
    intro m hm
    rcases List.mem_append.1 hm with hm | hm
    . exact h.metadata m hm
    . rw [List.mem_singleton.1 hm]
      exact hn

theorem IsPlaced.withMapper (h : a.IsPlaced spacing) (id mapper : Json) :
    (a.withMapper id mapper).IsPlaced spacing where
  spacing := h.spacing
  metadata := by
    apply forall_mem_modifyNode (P := fun n => ∃ fields, n.metadata = .object fields)
    . exact fun n hn => hn
    . exact h.metadata

theorem IsPlaced.decorateMetadata (h : a.IsPlaced spacing) (id old metadata : Json) :
    (a.decorateSide id old metadata fun n metadata => { n with metadata }).1.IsPlaced spacing := by
  apply decorateSide_cases (P := fun s => s.1.IsPlaced spacing)
  . intro _
    exact h
  . intro _ _ _
    exact h
  . intro side _ hside
    refine ⟨h.spacing, forall_mem_modifyNode ?_ id h.metadata⟩
    exact fun _ _ => mergeInto_eq_object hside

theorem IsPlaced.decorate (h : a.IsPlaced spacing) (id mapper metadata : Json) :
    (a.decorate id mapper metadata).1.IsPlaced spacing := by
  apply decorate_steps (P := fun s => s.1.IsPlaced spacing)
  . intro _ _
    exact h
  . intro n _ _ _
    exact h.decorateMetadata id n.metadata metadata
  . intro n side _ _ _
    exact (h.withMapper id side).decorateMetadata id n.metadata metadata

theorem IsPlaced.apply (h : a.IsPlaced spacing) (op : Operation) :
    (op.apply a).1.IsPlaced spacing := by
  cases op with
  | setMetadata name description =>
    apply whenOpen_cases (P := fun s => (answering s _).1.IsPlaced spacing)
    . intro _
      exact h
    . intro _
      exact ⟨h.spacing, h.metadata⟩
  | appendModule moduleType version parameters mapper =>
    apply appendModule_cases (P := fun s => (answering s _).1.IsPlaced spacing)
    . exact h
    . intro _
      exact ⟨h.spacing, h.metadata⟩
    . intro _ _ _ _ _ hplace
      exact h.appended (placement_eq_object hplace)
  | appendRouter given version =>
    apply appendRouterOf_cases (P := fun s => (answering s _).1.IsPlaced spacing)
    . intro _
      exact h
    . intro _
      exact ⟨h.spacing, h.metadata⟩
    . intro _ _ _ _ hplace
      exact h.appended (placement_eq_object hplace)
  | appendAuxiliary kind data =>
    apply appendAuxiliary_cases (P := fun s => (answering s _).1.IsPlaced spacing)
    . intro _
      exact h
    . intro _ _ _ _ _ _
      exact ⟨h.spacing, h.metadata⟩
  | connect source target route =>
    apply whenOpen_cases (P := fun s => (answering s _).1.IsPlaced spacing)
    . intro _
      exact h
    . intro _
      exact ⟨h.spacing, h.metadata⟩
  | decorate id mapper metadata => exact h.decorate id mapper metadata
  | validate => exact h
  | build =>
    apply build_cases (P := fun s => (answering s _).1.IsPlaced spacing)
    . intro _ _
      exact h
    . intro _ _
      exact h
    . intro _ _
      exact h
    . intro _ _
      exact ⟨h.spacing, h.metadata⟩
    . intro _ _ _ _
      exact ⟨h.spacing, h.metadata⟩

end

theorem run_isPlaced (spacing name description : Json) (ops : List Operation) :
    ((start spacing name description).run ops).1.IsPlaced spacing :=
  run_induction ⟨rfl, by simp [start]⟩ (fun _ op h => h.apply op) ops

section

variable {a : Assembly} {e : Refusal}

theorem remains_of_appendModule {moduleType version parameters mapper : Json}
    (h : (a.appendModule moduleType version parameters mapper).2 = .error e) :
    Remains a (.appendModule moduleType version parameters mapper)
      (a.appendModule moduleType version parameters mapper).1 := by
  revert h
  apply whenOpen_cases (P := fun s => s.2 = .error e → Remains a _ s.1)
  . intro hfinal _
    exact .nothing (.inl hfinal)
  . intro hopen
    apply appendNode_cases (P := fun s => s.2 = .error e → Remains a _ s.1)
    . intro f hcause _
      apply Remains.gap hopen
      rcases hcause with hmake | hplace
      . rcases bind_eq_error.1 hmake with hparameters | ⟨fields, _, hmake⟩
        . exact .inl ⟨f, hparameters⟩
        . rcases bind_eq_error.1 hmake with hmapper | ⟨mapper', _, hmake⟩
          . exact .inr (.inl ⟨f, hmapper⟩)
          . cases hmake
      . exact .inr (.inr ⟨f, hplace⟩)
    . intro _ _ _ _ h
      cases h

theorem remains_of_appendRouter {routes : List Route} {version : Json}
    (h : (a.appendRouter routes version).2 = .error e) :
    Remains a (.appendRouter (.ok routes) version) (a.appendRouter routes version).1 := by
  revert h
  apply whenOpen_cases (P := fun s => s.2 = .error e → Remains a _ s.1)
  . intro hfinal _
    exact .nothing (.inl hfinal)
  . intro hopen
    split
    . rename_i hroutes
      intro _
      refine .nothing (.inr ⟨?_, not_false⟩)
      rintro ⟨⟨_, hgiven, hne⟩, _⟩
      cases hgiven
      exact hne (List.isEmpty_iff.1 hroutes)
    . rename_i hroutes
      apply appendNode_cases (P := fun s => s.2 = .error e → Remains a _ s.1)
      . intro f hcause _
        rcases hcause with hmake | hplace
        . cases hmake
        . exact .gap hopen ⟨⟨routes, rfl, by simpa using hroutes⟩, f, hplace⟩
      . intro _ _ _ _ h
        cases h

theorem remains_of_appendRouterOf {given : Except Fault (List Route)} {version : Json}
    (h : (a.appendRouterOf given version).2 = .error e) :
    Remains a (.appendRouter given version) (a.appendRouterOf given version).1 := by
  cases given with
  | ok routes => exact remains_of_appendRouter h
  | error f =>
    apply whenOpen_cases (P := fun s => Remains a _ s.1)
    . intro hfinal
      exact .nothing (.inl hfinal)
    . intro _
      refine .nothing (.inr ⟨?_, not_false⟩)
      rintro ⟨⟨_, hgiven, _⟩, _⟩
      cases hgiven

theorem mergeInto_object_of_error {fields : Fields} {data : Json} {f : Fault}
    (h : mergeInto (.object fields) data = .error f) : ∀ more, data ≠ .object more := by
  rintro more rfl
  cases fields <;> cases h

theorem not_merges_null (a : Assembly) (id : Json) : ¬a.Merges id .null := by
  rintro ⟨n, merged, _, hmerged⟩
  obtain ⟨_, _, hmerged⟩ := bind_eq_ok.1 hmerged
  cases hmerged

theorem remains_of_decorate (hmetadata : ∀ n ∈ a.nodes, ∃ fields, n.metadata = .object fields)
    {id mapper metadata : Json} (h : (a.decorate id mapper metadata).2 = .error e) :
    Remains a (.decorate id mapper metadata) (a.decorate id mapper metadata).1 := by
  revert h
  apply decorate_steps (P := fun s => s.2 = .error e → Remains a _ s.1)
  . intro _ hrefused _
    exact .nothing (hrefused.imp_right fun hmerges => ⟨not_false, fun hhalved => hmerges hhalved.1⟩)
  . intro _ _ _ hnull
    apply decorateSide_cases (P := fun s => s.2 = .error e → Remains a _ s.1)
    . intro _ h
      cases h
    . intro _ _ _ _
      refine .nothing (.inr ⟨not_false, fun hhalved => ?_⟩)
      exact not_merges_null a id (hnull ▸ hhalved.1)
    . intro _ _ _ h
      cases h
  . intro n merged hopen hnode hmerged
    apply decorateSide_cases (P := fun s => s.2 = .error e → Remains a _ s.1)
    . intro _ h
      cases h
    . intro f hsome hf _
      apply Remains.half hopen hnode hmerged
      obtain ⟨fields, hfields⟩ := hmetadata n (List.mem_of_find?_eq_some hnode)
      rw [hfields] at hf
      rintro (hnull | ⟨more, hmore⟩)
      . exact hsome hnull
      . exact mergeInto_object_of_error hf more hmore
    . intro _ _ _ h
      cases h

theorem error_of_answering {s : Step α} {f : α → Answer} (h : (answering s f).2 = .error e) :
    s.2 = .error e := by
  cases hs : s.2 with
  | ok x =>
    rw [answering_snd, hs] at h
    cases h
  | error e' =>
    rw [answering_snd, hs] at h
    cases h
    rfl

theorem remains_of_apply (hmetadata : ∀ n ∈ a.nodes, ∃ fields, n.metadata = .object fields)
    {op : Operation} (hop : op ≠ .build) (h : (op.apply a).2 = .error e) :
    Remains a op (op.apply a).1 := by
  cases op with
  | setMetadata name description =>
    revert h
    apply whenOpen_cases (P := fun s => (answering s _).2 = .error e → Remains a _ s.1)
    . intro hfinal _
      exact .nothing (.inl hfinal)
    . intro _ h
      cases h
  | appendModule moduleType version parameters mapper =>
    exact remains_of_appendModule (error_of_answering h)
  | appendRouter given version => exact remains_of_appendRouterOf (error_of_answering h)
  | appendAuxiliary kind data =>
    revert h
    apply appendAuxiliary_cases (P := fun s => (answering s _).2 = .error e → Remains a _ s.1)
    . intro _ _
      exact .nothing (.inr ⟨not_false, not_false⟩)
    . intro _ _ _ _ _ _ h
      cases h
  | connect source target route =>
    revert h
    apply whenOpen_cases (P := fun s => (answering s _).2 = .error e → Remains a _ s.1)
    . intro hfinal _
      exact .nothing (.inl hfinal)
    . intro _ h
      cases h
  | decorate id mapper metadata => exact remains_of_decorate hmetadata (error_of_answering h)
  | validate => exact .nothing (.inr ⟨not_false, not_false⟩)
  | build => exact absurd rfl hop

theorem not_isUnfit_of_isShapely (hspacing : ∃ n : Int, a.layoutSpacing = .int n) {op : Operation}
    (h : op.IsShapely) : ¬ op.IsUnfit a := by
  have hplace : ¬ ∃ f, placement a.layoutSpacing a.nextId = .error f := by
    obtain ⟨n, hn⟩ := hspacing
    rintro ⟨f, hf⟩
    rw [hn] at hf
    cases hf
  cases op with
  | appendModule moduleType version parameters mapper =>
    obtain ⟨hparameters, hmapper⟩ := h
    rintro (⟨f, hf⟩ | ⟨f, hf⟩ | hunplaced)
    . rcases hparameters with rfl | ⟨fields, rfl⟩
      . cases hf
      . cases fields <;> cases hf
    . rcases hmapper with rfl | ⟨fields, rfl⟩ <;> cases hf
    . exact hplace hunplaced
  | appendRouter given version => exact fun hunfit => hplace hunfit.2
  | _ => exact not_false

theorem Remains.eq_self {b : Assembly} {op : Operation} (h : Remains a op b)
    (hspacing : ∃ n : Int, a.layoutSpacing = .int n) (hop : op.IsShapely) : b = a := by
  cases h with
  | nothing => rfl
  | gap _ hunfit => exact absurd hunfit (not_isUnfit_of_isShapely hspacing hop)
  | half _ _ _ hmetadata => exact absurd hop hmetadata

end

/-- Where all that stands for an object is one, a refusal leaves nothing behind. -/
theorem apply_refused {spacing name description : Json} {ops : List Operation} {a : Assembly}
    (ha : ((start spacing name description).run ops).1 = a) {op : Operation} (hop : op ≠ .build)
    {e : Refusal} (he : (op.apply a).2 = .error e) :
    Remains a op (op.apply a).1 ∧
      ((∃ n : Int, spacing = .int n) → op.IsShapely → (op.apply a).1 = a) := by
  have hplaced := run_isPlaced spacing name description ops
  rw [ha] at hplaced
  have hremains := remains_of_apply hplaced.metadata hop he
  refine ⟨hremains, ?_⟩
  intro hspacing
  rw [← hplaced.spacing] at hspacing
  exact hremains.eq_self hspacing

/-- A list is no mapper, and the module it was meant for stays as it was. -/
theorem apply_refused_of_listedMapper :
    (Operation.decorate 1 (.array []) .null).apply
        ((start 300 "a" "b").run [.appendModule "m" 1 .null .null]).1 =
      (((start 300 "a" "b").run [.appendModule "m" 1 .null .null]).1,
        .error (.fault (.notMapping "list"))) := by
  have he : ((Operation.decorate 1 (.array []) .null).apply
      ((start 300 "a" "b").run [.appendModule "m" 1 .null .null]).1).2 =
        .error (.fault (.notMapping "list")) := rfl
  exact Prod.ext ((apply_refused rfl (by simp) he).2 ⟨300, rfl⟩ (.inl rfl)) he

/-- A number is no object: the module is not made, and yet the next one is the second. The mapper
beside such a number is merged all the same. -/
theorem refused_leaves_gap_or_half :
    (((Operation.appendModule "m" 1 5 .null).apply (start 300 "a" "b")).2 =
        .error (.fault (.notIterable "int")) ∧
      ((start 300 "a" "b").appendModule "m" 1 .null .null).2 = .ok 1 ∧
      (((Operation.appendModule "m" 1 5 .null).apply (start 300 "a" "b")).1.appendModule
        "m" 1 .null .null).2 = .ok 2) ∧
    ((Operation.decorate 1 (.object [("key", 1)]) 5).apply
        ((start 300 "a" "b").appendModule "m" 1 .null .null).1).2 =
      .error (.fault (.notMapping "int")) ∧
    ((start 300 "a" "b").appendModule "m" 1 .null .null).1.nodes.map Node.mapper = [.null] ∧
    ((Operation.decorate 1 (.object [("key", 1)]) 5).apply
        ((start 300 "a" "b").appendModule "m" 1 .null .null).1).1.nodes.map Node.mapper =
      [.object [("key", 1)]] :=
  ⟨⟨rfl, rfl, rfl⟩, rfl, rfl, rfl⟩

end Automation.Assembly
