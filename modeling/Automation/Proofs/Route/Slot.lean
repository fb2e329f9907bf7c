import Automation.Proofs.Blueprint.Placeholder
import Automation.Proofs.Route.Filter

/-!
This module contains the placeholders that routes bring with them. The field of a route is a path
between double braces, and it is listed as a placeholder unless a condition names its field with a
brace: this is neither escaped where the route is made nor part of what is found as a token.
-/

namespace Automation.Route

open Text Description

inductive Names (condition : String) : List Char → Prop where
  | compared {s : Split} (h : IsFirstSplit (strip condition.toList) s) : Names condition s.field
  | plain (h : ∀ s, ¬ IsSplit (strip condition.toList) s) : Names condition "status".toList

def fieldPath (source : Text) (field : List Char) : Text :=
  source ++ "." ++ String.ofList field

def IsBraceless (field : List Char) : Prop :=
  '\x7b' ∉ field ∧ '\x7d' ∉ field

instance (field : List Char) : Decidable (IsBraceless field) :=
  inferInstanceAs (Decidable (_ ∧ _))

/-- Whether paths may start with a source: it has no braces and does not begin with a blank. -/
structure IsSource (source : Text) : Prop where
  not_open : .char '\x7b' ∉ source.glyphs
  not_close : .char '\x7d' ∉ source.glyphs
  flush : ∀ g ∈ source.glyphs.head?, isBlank g.shape = false

section Field

variable {condition : String} {cs field : List Char} {s : Split}

theorem strip_head (condition : String) : IsFlush (strip condition.toList) :=
  fun _ hc => head?_stripWhere hc

/-- A blank at the end of the field would count as one before the word. -/
theorem IsFirstSplit.isBlank_last (h : IsFirstSplit cs s) (hflush : IsFlush cs) :
    ∀ c ∈ s.field.getLast?, isBlank c = false := by
  intro c hc
  obtain ⟨field, hfield⟩ := List.getLast?_eq_some_iff.1 hc
  cases hblank : isBlank c with
  | false => rfl
  | true =>
    have htext := h.isSplit.text
    rw [hfield] at htext
    cases hnil : field with
    | nil =>
      have hhead := hflush c (by simp [← htext, hnil])
      rw [hhead] at hblank
      cases hblank
    | cons d ds =>
      have hleft : IsBlankRun (c :: s.left) :=
        ⟨List.cons_ne_nil _ _, List.forall_mem_cons.2 ⟨hblank, h.isSplit.left.isBlank⟩⟩
      have hsplit : IsSplit cs { s with field, left := c :: s.left } := { h.isSplit with
        text := by simpa using htext
        field_ne_nil := by simp [hnil]
        field_line := fun hmem => h.isSplit.field_line (by simp [hfield, hmem])
        left := hleft }
      have hlength := (h.shortest _ hsplit).length_le
      rw [hfield, List.length_append, List.length_singleton] at hlength
      dsimp only at hlength
      omega

theorem Names.ne_nil (h : Names condition field) : field ≠ [] := by
  cases h with
  | compared h => exact h.isSplit.field_ne_nil
  | plain h => decide

theorem Names.isBlank_last (h : Names condition field) :
    ∀ c ∈ field.getLast?, isBlank c = false := by
  cases h with
  | compared h => exact h.isBlank_last (strip_head condition)
  | plain h =>
    rintro c ⟨⟩
    decide

theorem names_of_split {found value : List Char}
    (h : splitCondition? (strip condition.toList) = some (field, found, value)) :
    Names condition field := by
  obtain ⟨s, hs, hparts⟩ := exists_isFirstSplit (strip_last condition) h
  rw [Prod.mk.injEq] at hparts
  exact hparts.1 ▸ .compared hs

theorem Names.unique {field' : List Char} (h : Names condition field)
    (h' : Names condition field') : field = field' := by
  cases h with
  | compared h =>
    cases h' with
    | compared h' => rw [h.unique h']
    | plain h' => exact absurd h.isSplit (h' _)
  | plain h =>
    cases h' with
    | compared h' => exact absurd h'.isSplit (h _)
    | plain h' => rfl

theorem exists_names (condition : String) : ∃ field, Names condition field ∧
    ∀ source name, (filterOf source name condition).field =
      .string (fieldSlot source (String.ofList field)) := by
  by_cases hsplit : ∃ s, IsFirstSplit (strip condition.toList) s
  . obtain ⟨s, hs⟩ := hsplit
    exact ⟨_, .compared hs, fun source name => by rw [filterOf_of_isFirstSplit hs]⟩
  . have hnone : ∀ s, ¬ IsSplit (strip condition.toList) s := by
      apply (splitCondition?_eq_none_iff (strip_last condition)).1
      cases hfound : splitCondition? (strip condition.toList) with
      | none => rfl
      | some found =>
        obtain ⟨s, hs, -⟩ := exists_isFirstSplit (strip_last condition) hfound
        exact absurd ⟨s, hs⟩ hsplit
    refine ⟨_, .plain hnone, fun source name => ?_⟩
    rw [filterOf_of_not_isSplit hnone, String.ofList_toList]

end Field

section Slot

variable {source : Text} {condition : String} {field : List Char}

theorem glyphs_fieldPath (source : Text) (field : List Char) :
    (fieldPath source field).glyphs = source.glyphs ++ .char '.' :: field.map .char := by
  rw [fieldPath, glyphs_append, glyphs_append, List.append_assoc]
  simp [glyphs]

theorem glyphs_fieldSlot (source : Text) (field : List Char) :
    (fieldSlot source (String.ofList field)).glyphs = braced (fieldPath source field).glyphs := by
  rw [fieldSlot, glyphs_append, glyphs_append, glyphs_append, glyphs_append, glyphs_fieldPath]
  simp [glyphs, braced]

theorem isSlot_fieldPath (h : IsSource source) (hfield : IsBraceless field) :
    IsSlot (fieldPath source field).glyphs := by
  rw [glyphs_fieldPath]
  refine ⟨by simp, ?_, ?_⟩
  . simp [h.not_open, hfield.1]
  . simp [h.not_close, hfield.2]

theorem isToken_fieldPath (h : IsSource source) (hnames : Names condition field) :
    IsToken (fieldPath source field).glyphs (fieldPath source field).glyphs := by
  rw [glyphs_fieldPath]
  apply Placeholder.isToken_self (by simp)
  . intro g hg
    cases hsource : source.glyphs with
    | nil =>
      rw [hsource] at hg
      cases hg
      decide
    | cons g' gs =>
      rw [hsource] at hg
      cases hg
      exact h.flush g (by simp [hsource])
  . obtain ⟨cs, c, rfl⟩ := (List.eq_nil_or_concat field).resolve_left hnames.ne_nil
    have htext : source.glyphs ++ .char '.' :: (cs.concat c).map .char =
        source.glyphs ++ .char '.' :: cs.map .char ++ [.char c] := by
      simp
    rw [htext, List.getLast?_concat]
    rintro g ⟨⟩
    exact hnames.isBlank_last c (by simp)

theorem hasToken_fieldSlot (h : IsSource source) (hnames : Names condition field)
    (hfield : IsBraceless field) :
    (fieldSlot source (String.ofList field)).HasToken (fieldPath source field) := by
  refine ⟨_, isSlot_fieldPath h hfield, ?_, isToken_fieldPath h hnames⟩
  rw [glyphs_fieldSlot]

theorem isBraceless_of_mem_placeholders {b : Blueprint}
    (h : fieldPath source field ∈ b.placeholders) : IsBraceless field := by
  obtain ⟨n, -, t, -, hslot⟩ := Blueprint.mem_placeholders_iff.1 h
  have hnot := Placeholder.not_mem_of_hasToken hslot
  rw [glyphs_fieldPath] at hnot
  constructor
  . intro hmem
    exact hnot.1 (by simp [hmem])
  . intro hmem
    exact hnot.2 (by simp [hmem])

theorem holds_field {n : Node} {routes : List Route} {route : Route} {t : Text}
    (hn : n.routes = some routes) (hroute : route ∈ routes)
    (hfield : route.filter.field = .string t) : n.Holds t := by
  have hcomparison : (Json.object [("a", route.filter.field), ("b", route.filter.value),
      ("o", route.filter.operator)]).Holds t := by
    apply Json.Holds.field (List.mem_cons_self ..)
    rw [hfield]
    exact .string
  have hfilter : route.filter.toJson.Holds t := by
    apply Json.Holds.field (List.mem_cons_of_mem _ (List.mem_cons_self ..))
    exact .item (List.mem_cons_self ..) (.item (List.mem_cons_self ..) hcomparison)
  have htoJson : route.toJson.Holds t :=
    .field (f := ("filter", route.filter.toJson)) (by simp) hfilter
  refine ⟨"routes", by simp, .array (routes.map Route.toJson), ?_, ?_⟩
  . rw [Placeholder.get?_routes, hn]
    rfl
  . exact .item (List.mem_map_of_mem hroute) htoJson

end Slot

section Listed

variable {b : Blueprint} {n : Node} {source : Text} {conditions : List String}

/-- The path that a route tests is a placeholder just where the field that is named has no brace. -/
theorem mem_placeholders_of_ofConditions_iff (hn : n ∈ b.nodes)
    (hroutes : n.routes = some (ofConditions source conditions)) (hsource : IsSource source)
    {i : Nat} {condition : String} (hi : conditions[i]? = some condition) :
    ∃ field, Names condition field ∧
      (ofConditions source conditions)[i]?.map (·.filter.field) =
        some (.string (fieldSlot source (String.ofList field))) ∧
      (fieldPath source field ∈ b.placeholders ↔ IsBraceless field) := by
  obtain ⟨field, hnames, hslot⟩ := exists_names condition
  have hroute : (ofConditions source conditions)[i]? =
      some (ofCondition source (i + 1) condition) := by
    rw [getElem?_ofConditions, hi, Option.map_some]
  have hfield : (ofCondition source (i + 1) condition).filter.field =
      .string (fieldSlot source (String.ofList field)) := hslot source _
  refine ⟨field, hnames, ?_, isBraceless_of_mem_placeholders, fun hbraceless => ?_⟩
  . rw [hroute, Option.map_some, hfield]
  . apply Blueprint.mem_placeholders_iff.2
    exact ⟨n, hn, _, holds_field hroutes (List.mem_of_getElem? hroute) hfield,
      hasToken_fieldSlot hsource hnames hbraceless⟩

def routerBlueprint (conditions : List String) : Blueprint where
  name := "router"
  description := ""
  version := 2
  nodes := [⟨1, Node.routerType, 1, [], .object [], .null,
    some (ofConditions "previousModule" conditions)⟩]
  connections := []
  scheduling := .null
  variableDefs := []
  dataStores := []
  settings := .null

theorem isSource_previousModule : IsSource "previousModule" := by
  constructor <;> decide

theorem mem_placeholders_of_total :
    fieldPath "previousModule" "total".toList ∈
      (routerBlueprint ["stars align", "total is 5"]).placeholders := by
  have hsplit : splitCondition? (strip "total is 5".toList) =
      some ("total".toList, "is".toList, "5".toList) := by
    decide +kernel
  have hnames := names_of_split hsplit
  obtain ⟨field, hfield, -, hlisted⟩ :=
    mem_placeholders_of_ofConditions_iff (b := routerBlueprint ["stars align", "total is 5"])
      (List.mem_singleton_self _) rfl isSource_previousModule (i := 1) rfl
  rw [hnames.unique hfield]
  exact hlisted.2 (hnames.unique hfield ▸ by decide)

/-- A field named with a brace is written into the route and is not among the placeholders. -/
theorem not_mem_placeholders_of_brace : IsSource "previousModule" ∧
    Names "a\x7db is 5" "a\x7db".toList ∧
    (ofConditions "previousModule" ["a\x7db is 5"]).map (·.filter.field) =
      [.string (fieldSlot "previousModule" "a\x7db")] ∧
    fieldPath "previousModule" "a\x7db".toList ∉ (routerBlueprint ["a\x7db is 5"]).placeholders := by
  have hsplit : splitCondition? (strip "a\x7db is 5".toList) =
      some ("a\x7db".toList, "is".toList, "5".toList) := by
    decide +kernel
  refine ⟨isSource_previousModule, names_of_split hsplit, by decide +kernel, fun h => ?_⟩
  exact absurd (isBraceless_of_mem_placeholders h) (by decide)

end Listed

end Automation.Route
