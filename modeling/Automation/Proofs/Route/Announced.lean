import Automation.Proofs.Description.Condition
import Automation.Proofs.Route.Filter

/-!
This module contains the routes of conditions that a description announces with "when". Such a
condition ends before the first of "is", "equals" and "contains", at which it would be split, so
that it is compared with a value only if "greater" or "less" stands within it.
-/

namespace Automation.Route

open Text Description

section Ascii

theorem isAscii_lower {cs : List Char} (h : IsAscii cs) : IsAscii (lower cs) := by
  have hcodes : (List.range 128).all (fun n => (lowerChar (Char.ofNat n)).toNat < 128) = true := by
    decide +kernel
  have hbeyond : ∀ c : Char, c.toNat < 128 → c ≠ 'Σ' ∧ c ≠ 'İ' := by
    intro c hc
    constructor <;> rintro rfl <;> exact absurd hc (by decide)
  intro d hd
  obtain ⟨c, hc, before, after, hd⟩ := mem_lower hd
  have hascii := h c hc
  rw [lowerWithin, if_neg (hbeyond c hascii).1, if_neg (hbeyond c hascii).2,
    List.mem_singleton] at hd
  have hcode := List.all_eq_true.1 hcodes c.toNat (List.mem_range.2 hascii)
  rw [Char.ofNat_toNat, decide_eq_true_eq] at hcode
  rwa [hd]

theorem isAscii_normal {cs : List Char} (h : IsAscii cs) : IsAscii (normal cs) := by
  apply isAscii_lower
  intro c hc
  rcases mem_joinWords hc with rfl | ⟨w, hw, hcw⟩
  . decide
  . exact h c (mem_of_mem_words hw hcw)

structure IsCommon (cs : List Char) : Prop where
  ascii : IsAscii cs
  lower : ∀ c ∈ cs, IsLower c
  line : '\n' ∉ cs

theorem isCommon_normal {cs : List Char} (h : IsAscii cs) : IsCommon (normal cs) where
  ascii := isAscii_normal h
  lower := fun _ => isLower_of_mem_lower
  line := fun hmem => absurd ((isSpaced_normal cs).eq_space _ hmem (by decide)) (by decide)

theorem IsCommon.subset {cs cs' : List Char} (h : IsCommon cs) (hsub : cs' ⊆ cs) :
    IsCommon cs' where
  ascii := fun c hc => h.ascii c (hsub hc)
  lower := fun c hc => h.lower c (hsub hc)
  line := fun hmem => h.line (hsub hmem)

/-- In lower case and in ASCII there is one way to write a word. -/
theorem IsCommon.eq_of_isSpelling {word found : List Char} (h : IsCommon found)
    (hword : ∀ letter ∈ word, letter ∈ smallLetters) (hspelling : IsSpelling word found) :
    found = word := by
  rw [← lower_of_isSpelling hspelling hword h.ascii, lower_eq_self h.lower]

theorem isSpelling_self (word : List Char) : IsSpelling word word :=
  List.forall₂_same.2 fun _ _ => .inl rfl

end Ascii

section Inner

def HasInner (cs word : List Char) : Prop :=
  ∃ before left right after, before ++ (left ++ (word ++ (right ++ after))) = cs ∧
    before ≠ [] ∧ IsBlankRun left ∧ IsBlankRun right ∧ after ≠ []

variable {cs : List Char} {o : Occurrence} {s : Split}

theorem IsSplit.hasInner (h : IsSplit cs s) : HasInner cs s.word :=
  ⟨s.field, s.left, s.right, s.value, h.text, h.field_ne_nil, h.left, h.right, h.value_ne_nil⟩

theorem IsSplit.subset (h : IsSplit cs s) : s.word ⊆ cs := by
  intro c hc
  rw [← h.text]
  simp [hc]

theorem IsCommon.exists_isSplit (h : IsCommon cs) {word : List Char} (hword : IsOperator word)
    (hinner : HasInner cs word) : ∃ s, IsSplit cs s := by
  obtain ⟨before, left, right, after, rfl, hbefore, hleft, hright, hafter⟩ := hinner
  have hbeforeLine : '\n' ∉ before := fun hmem => h.line (by simp [hmem])
  have hafterLine : '\n' ∉ after := fun hmem => h.line (by simp [hmem])
  exact ⟨⟨before, left, word, right, after⟩,
    ⟨rfl, hbefore, hbeforeLine, hleft, hword, hright, hafter, hafterLine⟩⟩

theorem span_subset {pattern : Pattern} (h : pattern.Occurs cs o) : o.span ⊆ cs := by
  intro c hc
  rw [← h.text, Occurrence.rest]
  simp [hc]

/-- A condition is split at none of the words that end it. -/
theorem word_of_isSplit (hcommon : IsCommon cs) (ho : whenPattern.IsChosen cs o)
    (hs : IsSplit o.span s) : s.word = "greater".toList ∨ s.word = "less".toList := by
  obtain ⟨operator, hoperator, hspelling⟩ := hs.word
  have hword : s.word = operator.1.toList := by
    have hsubset : s.word ⊆ cs := List.Subset.trans hs.subset (span_subset ho.occurs)
    apply (hcommon.subset hsubset).eq_of_isSpelling _ hspelling
    exact smallLetters_operatorWords operator hoperator
  -- The condition would have ended before such a word, since it ends as soon as it can.
  have hnone : ∀ w : String, .word w ∈ whenPattern.stops → s.word ≠ w.toList := by
    intro w hw heq
    have hclose : whenPattern.Closes (s.left ++ s.word)
        (s.right ++ s.value ++ (o.close ++ o.after)) := by
      refine ⟨_, hw, s.left, hs.left, by rw [heq], ?_⟩
      obtain ⟨b, right, hright⟩ := List.exists_cons_of_ne_nil hs.right.ne_nil
      rw [hright, List.cons_append, List.cons_append]
      exact isWord_of_isBlank (hs.right.isBlank b (by simp [hright]))
    refine ho.not_closes (u := s.field) (v := s.left ++ (s.word ++ (s.right ++ s.value)))
      hs.text.symm hs.field_ne_nil ?_ ?_ hclose
    . simp [hs.left.ne_nil]
    . simp
  simp only [operatorWords, List.mem_cons, List.not_mem_nil, or_false] at hoperator
  rcases hoperator with rfl | rfl | rfl | rfl | rfl
  . exact absurd hword (hnone "is" (by decide))
  . exact absurd hword (hnone "equals" (by decide))
  . exact absurd hword (hnone "contains" (by decide))
  . exact .inl hword
  . exact .inr hword

theorem exists_isFirstSplit_of_isSplit (hlast : ∀ c ∈ cs.getLast?, Text.isBlank c = false)
    (h : IsSplit cs s) : ∃ t, IsFirstSplit cs t := by
  cases hfound : splitCondition? cs with
  | none => exact absurd h ((splitCondition?_eq_none_iff hlast).1 hfound s)
  | some found =>
    obtain ⟨t, ht, -⟩ := exists_isFirstSplit hlast hfound
    exact ⟨t, ht⟩

end Inner

structure IsFallback (source : Text) (f : RouteFilter) : Prop where
  field : f.field = .string (fieldSlot source "status")
  operator : f.operator = .string "equal"
  value : f.value = .string "true"

structure IsParsed (source : Text) (s : Split) (f : RouteFilter) : Prop where
  field : f.field = .string (fieldSlot source (String.ofList s.field))
  operator : f.operator = .string (String.ofList s.word)
  value : ∃ bare, DropsFiller s.value bare ∧ f.value = .string (String.ofList bare)

/-- What a route tests whose condition was announced with "when" and ends before a
comparing word. -/
structure TestsSpan (source : Text) (span : List Char) (f : RouteFilter) : Prop where
  fallback : ¬ HasInner span "greater".toList → ¬ HasInner span "less".toList → IsFallback source f
  parsed : HasInner span "greater".toList ∨ HasInner span "less".toList →
    ∃ s, IsFirstSplit span s ∧ (s.word = "greater".toList ∨ s.word = "less".toList) ∧
      IsParsed source s f

section Tests

variable {cs : List Char} {o : Occurrence}

theorem operatorOf_of_word {word : List Char}
    (h : word = "greater".toList ∨ word = "less".toList) :
    operatorOf (String.ofList word) = String.ofList word := by
  rcases h with rfl | rfl <;> decide +kernel

theorem testsSpan_filterOf (hcommon : IsCommon cs) (ho : whenPattern.IsChosen cs o)
    (hstrip : strip o.span = o.span) (source : Text) (name : String) :
    TestsSpan source o.span (filterOf source name (String.ofList o.span)) := by
  have htext : strip (String.ofList o.span).toList = o.span := by
    rw [String.toList_ofList, hstrip]
  have hlast : ∀ c ∈ o.span.getLast?, Text.isBlank c = false := by
    rw [← hstrip]
    exact fun _ => getLast?_stripWhere
  constructor
  . intro hgreater hless
    have hnone : ∀ s, ¬ IsSplit o.span s := by
      intro s hs
      have hinner := hs.hasInner
      rcases word_of_isSplit hcommon ho hs with hword | hword
      . exact hgreater (hword ▸ hinner)
      . exact hless (hword ▸ hinner)
    rw [← htext] at hnone
    rw [filterOf_of_not_isSplit hnone]
    exact ⟨rfl, rfl, rfl⟩
  . intro hinner
    have hspan := hcommon.subset (span_subset ho.occurs)
    have hoperators : IsOperator "greater".toList ∧ IsOperator "less".toList :=
      ⟨⟨("greater", "greater"), by decide, isSpelling_self _⟩,
        ⟨("less", "less"), by decide, isSpelling_self _⟩⟩
    obtain ⟨s, hs⟩ : ∃ s, IsSplit o.span s := by
      rcases hinner with hgreater | hless
      . exact hspan.exists_isSplit hoperators.1 hgreater
      . exact hspan.exists_isSplit hoperators.2 hless
    obtain ⟨t, ht⟩ := exists_isFirstSplit_of_isSplit hlast hs
    have hword := word_of_isSplit hcommon ho ht.isSplit
    refine ⟨t, ht, hword, ?_⟩
    rw [← htext] at ht
    rw [filterOf_of_isFirstSplit ht, operatorOf_of_word hword]
    exact ⟨rfl, rfl, _, dropsFiller_dropFiller t.value, rfl⟩

end Tests

end Automation.Route
