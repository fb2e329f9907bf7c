import Automation.Proofs.Blueprint.Diagnosis
import Automation.Proofs.Blueprint.Report
import Automation.Proofs.Text.Order
import Automation.Proofs.Text.Strip

/-!
This module contains the exact placeholders of blueprints. A token stands between double braces, and
nothing within them is a brace, so that no two of them overlap and a scan from left to right misses
none. Apart from the texts in parameters, mappers and routes nothing of a blueprint counts.
-/

namespace Automation

namespace Text

structure IsSlot (inner : List Glyph) : Prop where
  ne_nil : inner ≠ []
  not_open : .char '\x7b' ∉ inner
  not_close : .char '\x7d' ∉ inner

def braced (inner : List Glyph) : List Glyph :=
  .char '\x7b' :: .char '\x7b' :: (inner ++ [.char '\x7d', .char '\x7d'])

def AreBlank (gs : List Glyph) : Prop :=
  ∀ g ∈ gs, isBlank g.shape = true

/-- What is left of a slot without the blanks around it, of which the last one counts as a token. -/
inductive IsToken : List Glyph → List Glyph → Prop where
  | within {before token after : List Glyph} (hbefore : AreBlank before) (hafter : AreBlank after)
      (hne : token ≠ []) (hhead : ∀ g ∈ token.head?, isBlank g.shape = false)
      (hlast : ∀ g ∈ token.getLast?, isBlank g.shape = false) :
      IsToken (before ++ token ++ after) token
  | blank {before : List Glyph} {g : Glyph} (h : AreBlank (before ++ [g])) :
      IsToken (before ++ [g]) [g]

def HasToken (t token : Text) : Prop :=
  ∃ inner, IsSlot inner ∧ braced inner <:+: t.glyphs ∧ IsToken inner token.glyphs

end Text

namespace Placeholder

open Text

section Token

theorem eq_trim_of_isToken {inner token : List Glyph} (h : IsToken inner token) :
    token = trim inner := by
  unfold trim
  cases h with
  | within hbefore hafter hne hhead hlast =>
    rw [stripWhere_around hbefore hafter hne hhead hlast]
    obtain ⟨g, token, rfl⟩ := List.exists_cons_of_ne_nil hne
    rfl
  | blank hblank =>
    rw [stripWhere_eq_nil_iff.2 hblank]
    simp

theorem isToken_trim {inner : List Glyph} (h : inner ≠ []) : IsToken inner (trim inner) := by
  unfold trim
  split
  . rename_i hnil
    rcases List.eq_nil_or_concat inner with rfl | ⟨before, g, rfl⟩
    . exact absurd rfl h
    . rw [List.concat_eq_append] at hnil ⊢
      have hdrop : (before ++ [g]).drop ((before ++ [g]).length - 1) = [g] := by simp
      rw [hdrop]
      exact .blank (stripWhere_eq_nil_iff.1 hnil)
  . rename_i token hne
    obtain ⟨before, after, hinner, hbefore, hafter⟩ :=
      exists_around_stripWhere (fun g => isBlank g.shape) inner
    conv_lhs => rw [hinner]
    apply IsToken.within hbefore hafter
    . simpa using hne
    . exact fun g hg => head?_stripWhere (p := fun g : Glyph => isBlank g.shape) hg
    . exact fun g hg => getLast?_stripWhere (p := fun g : Glyph => isBlank g.shape) hg

theorem isToken_iff {inner token : List Glyph} (h : inner ≠ []) :
    IsToken inner token ↔ token = trim inner := by
  constructor
  . exact eq_trim_of_isToken
  . rintro rfl
    exact isToken_trim h

theorem isToken_self {token : List Glyph} (hne : token ≠ [])
    (hhead : ∀ g ∈ token.head?, isBlank g.shape = false)
    (hlast : ∀ g ∈ token.getLast?, isBlank g.shape = false) : IsToken token token := by
  have hnone : AreBlank [] := by simp [AreBlank]
  have htoken := IsToken.within hnone hnone hne hhead hlast
  rwa [List.nil_append, List.append_nil] at htoken

theorem not_mem_of_hasToken {t token : Text} (h : t.HasToken token) :
    .char '\x7b' ∉ token.glyphs ∧ .char '\x7d' ∉ token.glyphs := by
  obtain ⟨inner, hinner, -, htoken⟩ := h
  have hsubset : token.glyphs ⊆ inner := by
    rw [eq_trim_of_isToken htoken]
    exact trim_subset inner
  exact ⟨fun hmem => hinner.not_open (hsubset hmem), fun hmem => hinner.not_close (hsubset hmem)⟩

end Token

section Scan

theorem isBrace_eq_false_iff {g : Glyph} :
    isBrace g = false ↔ g ≠ .char '\x7b' ∧ g ≠ .char '\x7d' := by
  simp [isBrace]

theorem isSlot_iff {inner : List Glyph} :
    IsSlot inner ↔ inner ≠ [] ∧ ∀ g ∈ inner, isBrace g = false := by
  constructor
  . rintro ⟨hne, hopen, hclose⟩
    refine ⟨hne, fun g hg => isBrace_eq_false_iff.2 ⟨?_, ?_⟩⟩
    . rintro rfl
      exact hopen hg
    . rintro rfl
      exact hclose hg
  . rintro ⟨hne, hfree⟩
    exact ⟨hne, fun h => (isBrace_eq_false_iff.1 (hfree _ h)).1 rfl,
      fun h => (isBrace_eq_false_iff.1 (hfree _ h)).2 rfl⟩

theorem at?_braced {inner : List Glyph} (h : IsSlot inner) (rest : List Glyph) :
    at? (braced inner ++ rest) = some (trim inner, rest) := by
  obtain ⟨hne, hfree⟩ := isSlot_iff.1 h
  have hnot : ∀ g ∈ inner, (!isBrace g) = true := fun g hg => by rw [hfree g hg]; rfl
  have htake : (inner ++ .char '\x7d' :: .char '\x7d' :: rest).takeWhile (!isBrace ·) = inner := by
    rw [List.takeWhile_append_of_pos hnot, List.takeWhile_cons_of_neg (by decide), List.append_nil]
  have hdrop : (inner ++ .char '\x7d' :: .char '\x7d' :: rest).dropWhile (!isBrace ·) =
      .char '\x7d' :: .char '\x7d' :: rest := by
    rw [List.dropWhile_append_of_pos hnot, List.dropWhile_cons_of_neg (by decide)]
  obtain ⟨g, gs, rfl⟩ := List.exists_cons_of_ne_nil hne
  simp only [braced, List.cons_append, List.append_assoc, List.nil_append] at htake hdrop ⊢
  rw [at?]
  simp only [htake, hdrop]

theorem eq_braced_of_at? {gs token rest : List Glyph} (h : at? gs = some (token, rest)) :
    ∃ inner, IsSlot inner ∧ gs = braced inner ++ rest ∧ token = trim inner := by
  unfold at? at h
  split at h
  . rename_i gs
    dsimp only at h
    split at h
    . cases h
    . rename_i rest' hne hclose
      cases h
      refine ⟨gs.takeWhile (!isBrace ·), isSlot_iff.2 ⟨?_, ?_⟩, ?_, rfl⟩
      . intro hnil
        simp_all
      . intro g hg
        simpa using List.all_eq_true.1 List.all_takeWhile g hg
      . rw [braced, List.cons_append, List.cons_append, List.append_assoc, List.cons_append,
          List.cons_append, List.nil_append, ← hclose, List.takeWhile_append_dropWhile]
    . cases h
  . cases h

theorem infix_of_not_mem {x : α} {ps us xs : List α} (hx : x ∉ us) (h : x :: ps <:+: us ++ xs) :
    x :: ps <:+: xs := by
  induction us with
  | nil => exact h
  | cons u us ih =>
    rw [List.mem_cons, not_or] at hx
    rcases List.infix_cons_iff.1 h with hprefix | hinfix
    . exact absurd (List.cons_prefix_cons.1 hprefix).1 hx.1
    . exact ih hx.2 hinfix

theorem braced_inj {inner inner' rest rest' : List Glyph} (h : IsSlot inner) (h' : IsSlot inner')
    (heq : braced inner ++ rest = braced inner' ++ rest') : inner = inner' ∧ rest = rest' := by
  have hat := at?_braced h rest
  simp only [braced, List.cons_append, List.append_assoc, List.nil_append, List.cons.injEq,
    true_and] at heq
  have hfree := (isSlot_iff.1 h).2
  have hfree' := (isSlot_iff.1 h').2
  obtain ⟨hinner, hrest⟩ := append_inj_of_border (p := (!isBrace ·)) (by simpa using hfree)
    (by simpa using hfree') (by simp [isBrace]) (by simp [isBrace]) heq
  simpa [hinner] using hrest

/-- Slots do not overlap: one that stands after the start of another one stands behind it. -/
theorem braced_infix_iff {inner inner' rest : List Glyph} (h : IsSlot inner) (h' : IsSlot inner') :
    braced inner <:+: braced inner' ++ rest ↔ inner = inner' ∨ braced inner <:+: rest := by
  constructor
  . intro hinfix
    rcases List.infix_cons_iff.1 hinfix with ⟨rest', heq⟩ | hinfix
    . exact .inl (braced_inj h h' heq).1
    -- No slot starts at the second brace, since behind it the other one has no brace to go on with.
    . rcases List.infix_cons_iff.1 hinfix with hprefix | hinfix
      . obtain ⟨g, gs, rfl⟩ := List.exists_cons_of_ne_nil h'.ne_nil
        have hopen := (List.cons_prefix_cons.1 (List.cons_prefix_cons.1 hprefix).2).1
        exact absurd (hopen ▸ List.mem_cons_self ..) h'.not_open
      . apply Or.inr
        apply infix_of_not_mem _ hinfix
        simp [h'.not_open]
  . rintro (rfl | hinfix)
    . exact (List.prefix_append ..).isInfix
    . exact hinfix.trans (List.suffix_append ..).isInfix

theorem go_length (us gs : List Glyph) : inText.go us.length (us ++ gs) = inText.go 0 gs := by
  induction us with
  | nil => rfl
  | cons u us ih => rw [List.length_cons, List.cons_append, inText.go, ih]

theorem go_braced {inner : List Glyph} (h : IsSlot inner) (rest : List Glyph) :
    inText.go 0 (braced inner ++ rest) = ofGlyphs (trim inner) :: inText.go 0 rest := by
  have hat := at?_braced h rest
  rw [braced, List.cons_append] at hat ⊢
  rw [inText.go, hat]
  dsimp only
  rw [List.length_append, Nat.add_sub_cancel, go_length]

theorem mem_go_iff {token : Text} (gs : List Glyph) : token ∈ inText.go 0 gs ↔
    ∃ inner, IsSlot inner ∧ braced inner <:+: gs ∧ token = ofGlyphs (trim inner) := by
  -- The part behind a slot is shorter than what follows its first brace.
  induction hlength : gs.length using Nat.strongRecOn generalizing gs with
  | _ length ih =>
    subst hlength
    cases gs with
    | nil => simp [inText.go, braced]
    | cons g gs =>
      cases hat : at? (g :: gs) with
      | none =>
        rw [inText.go, hat]
        dsimp only
        rw [ih gs.length (Nat.lt_succ_self _) gs rfl]
        constructor
        . rintro ⟨inner, hinner, hinfix, rfl⟩
          exact ⟨inner, hinner, hinfix.trans (List.suffix_cons g gs).isInfix, rfl⟩
        . rintro ⟨inner, hinner, hinfix, rfl⟩
          rcases List.infix_cons_iff.1 hinfix with ⟨rest, heq⟩ | hinfix
          . rw [← heq, at?_braced hinner] at hat
            cases hat
          . exact ⟨inner, hinner, hinfix, rfl⟩
      | some found =>
        obtain ⟨inner', hinner', heq, -⟩ := eq_braced_of_at? hat
        rw [heq, go_braced hinner', List.mem_cons, ih found.2.length _ _ rfl]
        . constructor
          . rintro (rfl | ⟨inner, hinner, hinfix, rfl⟩)
            . exact ⟨inner', hinner', (List.prefix_append ..).isInfix, rfl⟩
            . exact ⟨inner, hinner, (braced_infix_iff hinner hinner').2 (.inr hinfix), rfl⟩
          . rintro ⟨inner, hinner, hinfix, rfl⟩
            rcases (braced_infix_iff hinner hinner').1 hinfix with rfl | hinfix
            . exact .inl rfl
            . exact .inr ⟨inner, hinner, hinfix, rfl⟩
        . rw [heq, braced]
          simp only [List.length_append, List.length_cons]
          omega

theorem mem_inText_iff {t token : Text} : token ∈ inText t ↔ t.HasToken token := by
  unfold inText HasToken
  rw [mem_go_iff]
  constructor
  . rintro ⟨inner, hinner, hinfix, rfl⟩
    refine ⟨inner, hinner, hinfix, ?_⟩
    rw [glyphs_ofGlyphs]
    exact isToken_trim hinner.ne_nil
  . rintro ⟨inner, hinner, hinfix, htoken⟩
    refine ⟨inner, hinner, hinfix, ?_⟩
    rw [← (isToken_iff hinner.ne_nil).1 htoken, ofGlyphs_glyphs]

example : inText "\x7b\x7b\x7b a.b \x7d\x7d\x7d \x7b\x7b \x7d\x7d \x7b\x7bc\x7d" = ["a.b", " "] := by
  cbv

end Scan

end Placeholder

inductive Json.Holds : Json → Text → Prop where
  | string {t : Text} : Holds (.string t) t
  | item {xs : List Json} {x : Json} {t : Text} (hx : x ∈ xs) (h : Holds x t) : Holds (.array xs) t
  | field {fs : Fields} {f : Text × Json} {t : Text} (hf : f ∈ fs) (h : Holds f.2 t) :
      Holds (.object fs) t

def Node.Holds (n : Node) (t : Text) : Prop :=
  ∃ name ∈ ["parameters", "mapper", "routes"], ∃ v, n.toFields.get? name = some v ∧ v.Holds t

namespace Placeholder

section Reach

variable {token : Text}

theorem mem_inJson_iff {v : Json} : token ∈ inJson v ↔ ∃ t, v.Holds t ∧ t.HasToken token := by
  induction v using Json.inductionOn with
  | string t =>
    rw [inJson, mem_inText_iff]
    constructor
    . intro h
      exact ⟨t, .string, h⟩
    . rintro ⟨_, ⟨⟩, h⟩
      exact h
  | array xs ih =>
    rw [inJson, mem_inItems]
    constructor
    . rintro ⟨x, hx, htoken⟩
      obtain ⟨t, hholds, hslot⟩ := (ih x hx).1 htoken
      exact ⟨t, .item hx hholds, hslot⟩
    . rintro ⟨t, hholds, hslot⟩
      cases hholds with
      | item hx hholds => exact ⟨_, hx, (ih _ hx).2 ⟨t, hholds, hslot⟩⟩
  | object fs ih =>
    rw [inJson, mem_inFields]
    constructor
    . rintro ⟨f, hf, htoken⟩
      obtain ⟨t, hholds, hslot⟩ := (ih f hf).1 htoken
      exact ⟨t, .field hf hholds, hslot⟩
    . rintro ⟨t, hholds, hslot⟩
      cases hholds with
      | field hf hholds => exact ⟨_, hf, (ih _ hf).2 ⟨t, hholds, hslot⟩⟩
  | _ =>
    constructor
    . intro h
      cases h
    . rintro ⟨_, ⟨⟩, _⟩

theorem get?_parameters (n : Node) :
    n.toFields.get? "parameters" = some (.object n.parameters) := by
  simp [Node.toFields, Fields.get?]

theorem get?_mapper (n : Node) :
    n.mapper = .null ∧ n.toFields.get? "mapper" = none ∨
      n.toFields.get? "mapper" = some n.mapper := by
  rcases Blueprint.optionalField_cases "mapper" n.mapper with ⟨hnull, hmapper⟩ | hmapper <;>
  rcases Blueprint.optionalField_cases "metadata" n.metadata with ⟨-, hmetadata⟩ | hmetadata <;>
  cases hroutes : n.routes <;>
  simp_all [Node.toFields, Fields.get?]

theorem get?_routes (n : Node) :
    n.toFields.get? "routes" = n.routes.map fun routes => .array (routes.map Route.toJson) := by
  rcases Blueprint.optionalField_cases "mapper" n.mapper with ⟨-, hmapper⟩ | hmapper <;>
  rcases Blueprint.optionalField_cases "metadata" n.metadata with ⟨-, hmetadata⟩ | hmetadata <;>
  cases hroutes : n.routes <;>
  simp [Node.toFields, Fields.get?, hmetadata, hroutes, hmapper]

theorem node_holds_iff {n : Node} {t : Text} :
    n.Holds t ↔ (Json.object n.parameters).Holds t ∨ n.mapper.Holds t ∨
      (Json.array ((n.routes.getD []).map Route.toJson)).Holds t := by
  unfold Node.Holds
  simp only [List.mem_cons, List.not_mem_nil, or_false, exists_eq_or_imp, exists_eq_left,
    get?_parameters, get?_routes, Option.some.injEq, exists_eq_left']
  refine or_congr_right (or_congr ?_ ?_)
  . rcases get?_mapper n with ⟨hnull, hnone⟩ | hsome
    . rw [hnone, hnull]
      constructor
      . rintro ⟨_, ⟨⟩, _⟩
      . rintro ⟨⟩
    . simp [hsome]
  . cases n.routes with
    | none =>
      constructor
      . rintro ⟨_, ⟨⟩, _⟩
      . rintro (_ | ⟨⟨⟩, _⟩)
    | some routes => simp

theorem mem_inNode_iff {n : Node} : token ∈ inNode n ↔ ∃ t, n.Holds t ∧ t.HasToken token := by
  have hparts : inNode n = inJson (.object n.parameters) ++ inJson n.mapper ++
      inJson (.array ((n.routes.getD []).map Route.toJson)) := rfl
  simp only [hparts, List.mem_append, mem_inJson_iff, node_holds_iff, or_and_right, exists_or,
    or_assoc]

end Reach

end Placeholder

section Bare

mutual

def Json.bare : Json → Json
  | .array xs => .array (bareItems xs)
  | .object fs => .object (bareFields fs)
  | v => v

def Json.bareItems : List Json → List Json
  | [] => []
  | x :: xs => x.bare :: bareItems xs

def Json.bareFields : Fields → Fields
  | [] => []
  | (_, x) :: fs => ("", x.bare) :: bareFields fs

end

def Node.bare (n : Node) : Node :=
  { n with parameters := Json.bareFields n.parameters, mapper := n.mapper.bare, metadata := .null }

def Blueprint.bare (b : Blueprint) : Blueprint where
  name := .null
  description := .null
  version := .null
  nodes := b.nodes.map Node.bare
  connections := []
  scheduling := .null
  variableDefs := []
  dataStores := []
  settings := .null

namespace Placeholder

mutual

theorem inJson_bare (v : Json) : inJson v.bare = inJson v := by
  cases v with
  | array xs => rw [Json.bare, inJson, inJson, inItems_bare]
  | object fs => rw [Json.bare, inJson, inJson, inFields_bare]
  | _ => rfl

theorem inItems_bare (xs : List Json) : inItems (Json.bareItems xs) = inItems xs := by
  cases xs with
  | nil => rfl
  | cons x xs => rw [Json.bareItems, inItems, inItems, inJson_bare, inItems_bare]

theorem inFields_bare (fs : Fields) : inFields (Json.bareFields fs) = inFields fs := by
  cases fs with
  | nil => rfl
  | cons f fs => rw [Json.bareFields, inFields, inFields, inJson_bare, inFields_bare]

end

theorem inNode_bare (n : Node) : inNode n.bare = inNode n := by
  unfold inNode Node.bare
  rw [inFields_bare, inJson_bare]

end Placeholder

end Bare

namespace Blueprint

theorem placeholders_bare (b : Blueprint) : b.bare.placeholders = b.placeholders := by
  unfold placeholders bare
  simp only [List.flatMap_map, Placeholder.inNode_bare]

theorem mem_placeholders_iff {b : Blueprint} {token : Text} :
    token ∈ b.placeholders ↔ ∃ n ∈ b.nodes, ∃ t, n.Holds t ∧ t.HasToken token := by
  unfold placeholders
  simp only [List.mem_mergeSort, List.mem_eraseDups, List.mem_flatMap, Placeholder.mem_inNode_iff]

theorem pairwise_placeholders (b : Blueprint) : b.placeholders.Pairwise Text.Before :=
  Text.pairwise_mergeSort_precedes (nodup_eraseDups _)

/-- What is listed are the tokens that modules ask for, once each, and nothing else counts. -/
theorem placeholders_exact (b : Blueprint) :
    b.placeholders.Pairwise Text.Before ∧
    (∀ token, token ∈ b.placeholders ↔ ∃ n ∈ b.nodes, ∃ t, n.Holds t ∧ t.HasToken token) ∧
    b.bare.placeholders = b.placeholders :=
  ⟨pairwise_placeholders b, fun _ => mem_placeholders_iff, placeholders_bare b⟩

end Blueprint

end Automation
