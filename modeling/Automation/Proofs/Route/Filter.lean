import Automation.Proofs.Route.Split

/-!
This module contains what the routes say of their conditions. A condition that is split has its
field compared with its value, any other the status, and the operator is the one that was read as
long as its word is written in ASCII.
-/

namespace Automation.Route

open Text Description

section Filler

inductive DropsFiller : (value bare : List Char) → Prop where
  | filler {word : String} {found gap value bare : List Char} (hword : word ∈ fillerWords)
      (hspelling : IsSpelling word.toList found) (hgap : IsBlankRun gap) (hflush : IsFlush bare)
      (htext : found ++ (gap ++ bare) = value) : DropsFiller value bare
  | bare {value : List Char} (h : ∀ word ∈ fillerWords, ∀ found gap rest,
      IsSpelling word.toList found → IsBlankRun gap → found ++ (gap ++ rest) ≠ value) :
      DropsFiller value value

theorem dropFiller_eq (value : List Char) : dropFiller value =
    (fillerWords.findSome? fun word =>
      (takeCaseless word.toList value).bind fun found => afterBlanks? found.2).getD value := rfl

theorem dropsFiller_dropFiller (value : List Char) : DropsFiller value (dropFiller value) := by
  rw [dropFiller_eq]
  cases hfirst : fillerWords.findSome? fun word =>
      (takeCaseless word.toList value).bind fun found => afterBlanks? found.2 with
  | none =>
    refine .bare fun word hword found gap rest hspelling hgap htext => ?_
    have hnone := List.findSome?_eq_none_iff.1 hfirst word hword
    rw [takeCaseless_eq_some_iff.2 ⟨htext, hspelling⟩, Option.bind_some] at hnone
    obtain ⟨c, gap, rfl⟩ := List.exists_cons_of_ne_nil hgap.ne_nil
    dsimp only at hnone
    rw [List.cons_append, afterBlanks?, if_pos (hgap.isBlank c (List.mem_cons_self ..))] at hnone
    cases hnone
  | some bare =>
    obtain ⟨word, hword, hsome⟩ := List.exists_of_findSome?_eq_some hfirst
    obtain ⟨⟨found, rest⟩, htake, hafter⟩ := Option.bind_eq_some_iff.1 hsome
    obtain ⟨rfl, hspelling⟩ := takeCaseless_eq_some_iff.1 htake
    obtain ⟨gap, hgap, rfl, hflush⟩ := afterBlanks?_eq_some_iff.1 hafter
    exact .filler hword hspelling hgap hflush rfl

theorem smallLetters_fillerWords : ∀ word ∈ fillerWords, ∀ c ∈ word.toList, c ∈ smallLetters := by
  have hall : fillerWords.all (fun word => word.toList.all (· ∈ smallLetters)) = true := by decide
  simpa only [List.all_eq_true, decide_eq_true_eq] using hall

theorem DropsFiller.unique {value bare bare' : List Char} (h : DropsFiller value bare)
    (h' : DropsFiller value bare') : bare = bare' := by
  cases h with
  | filler hword hspelling hgap hflush htext =>
    cases h' with
    | filler hword' hspelling' hgap' hflush' htext' =>
      obtain ⟨-, -, hbare⟩ := word_unique (hspelling.isBlank (smallLetters_fillerWords _ hword))
        (hspelling'.isBlank (smallLetters_fillerWords _ hword')) hgap hgap' hflush hflush'
        (htext.trans htext'.symm)
      exact hbare
    | bare h => exact absurd htext (h _ hword _ _ _ hspelling hgap)
  | bare h =>
    cases h' with
    | filler hword hspelling hgap _ htext => exact absurd htext (h _ hword _ _ _ hspelling hgap)
    | bare _ => rfl

end Filler

section Operator

theorem lookup_toLowerCase {o : String × String} (ho : o ∈ operatorWords) {found : List Char}
    (h : IsSpelling o.1.toList found) :
    operatorWords.lookup (toLowerCase (String.ofList found)) =
      if IsAscii found then some o.2 else none := by
  have hletters := smallLetters_operatorWords
  rw [toLowerCase, String.toList_ofList]
  split
  . rename_i hascii
    have hlookup : ∀ o ∈ operatorWords, operatorWords.lookup o.1 = some o.2 := by decide
    rw [lower_of_isSpelling h (hletters o ho) hascii, String.ofList_toList, hlookup o ho]
  . rename_i hascii
    have hkelvin : ∀ o ∈ operatorWords, 'k' ∉ o.1.toList := by decide
    obtain ⟨d, hd, hnot⟩ := exists_mem_lower h (hletters o ho) (hkelvin o ho) hascii
    rw [List.lookup_eq_none_iff]
    intro o' ho'
    rw [bne_iff_ne]
    rintro heq
    have hmem : d ∈ o'.1.toList := by rwa [← heq, String.toList_ofList]
    exact hnot (hletters o' ho' d hmem)

theorem operatorOf_of_isSpelling {o : String × String} (ho : o ∈ operatorWords)
    {found : List Char} (h : IsSpelling o.1.toList found) :
    operatorOf (String.ofList found) = if IsAscii found then o.2 else defaultOperator := by
  rw [operatorOf, lookup_toLowerCase ho h]
  split <;> rfl

end Operator

section Filter

variable {condition : String} {s : Split}

theorem strip_last (condition : String) :
    ∀ c ∈ (strip condition.toList).getLast?, Text.isBlank c = false :=
  fun _ hc => getLast?_stripWhere hc

theorem exists_isFirstSplit_of_takeCaseless {word field found value : List Char}
    (hsplit : splitCondition? (strip condition.toList) = some (field, found, value))
    (htake : takeCaseless word found = some (found, [])) :
    ∃ s, IsFirstSplit (strip condition.toList) s ∧ s.word = found ∧ IsSpelling word s.word := by
  obtain ⟨s, hs, hparts⟩ := exists_isFirstSplit (strip_last condition) hsplit
  rw [Prod.mk.injEq, Prod.mk.injEq] at hparts
  rw [← hparts.2.1] at htake
  exact ⟨s, hs, hparts.2.1, (takeCaseless_eq_some_iff.1 htake).2⟩

theorem filterOf_of_isFirstSplit (h : IsFirstSplit (strip condition.toList) s) (source : Text)
    (name : String) : filterOf source name condition =
      { name := .string name
        field := .string (fieldSlot source (String.ofList s.field))
        operator := .string (operatorOf (String.ofList s.word))
        value := .string (String.ofList (dropFiller s.value)) } := by
  rw [filterOf, splitCondition?_of_isFirstSplit (strip_last condition) h]

theorem filterOf_of_not_isSplit (h : ∀ s, ¬ IsSplit (strip condition.toList) s) (source : Text)
    (name : String) : filterOf source name condition =
      { name := .string name
        field := .string (fieldSlot source "status")
        operator := .string defaultOperator
        value := .string "true" } := by
  rw [filterOf, (splitCondition?_eq_none_iff (strip_last condition)).2 h]

end Filter

section Routes

structure FollowsCondition (source : Text) (position : Nat) (condition : String)
    (route : Route) : Prop where
  id : route.id = .int position
  label : route.label = .string ("Route " ++ toString position)
  name : route.filter.name = route.label
  compared : ∀ o s, IsClearSplit (strip condition.toList) o s →
    route.filter.field = .string (fieldSlot source (String.ofList s.field)) ∧
    route.filter.operator = .string o.2 ∧
    ∃ bare, DropsFiller s.value bare ∧ route.filter.value = .string (String.ofList bare)
  plain : (∀ s, ¬ IsSplit (strip condition.toList) s) →
    route.filter.field = .string (fieldSlot source "status") ∧
    route.filter.operator = .string "equal" ∧ route.filter.value = .string "true"

theorem follows_ofCondition (source : Text) (position : Nat) (condition : String) :
    FollowsCondition source position condition (ofCondition source position condition) where
  id := rfl
  label := rfl
  name := by
    unfold ofCondition filterOf
    dsimp only
    split <;> rfl
  compared := by
    intro o s h
    have hoperator := operatorOf_of_isSpelling h.operator h.word
    rw [if_pos h.ascii] at hoperator
    rw [ofCondition, filterOf_of_isFirstSplit h.isFirstSplit, hoperator]
    exact ⟨rfl, rfl, _, dropsFiller_dropFiller s.value, rfl⟩
  plain := by
    intro h
    rw [ofCondition, filterOf_of_not_isSplit h]
    exact ⟨rfl, rfl, rfl⟩

theorem getElem?_ofConditions (source : Text) (conditions : List String) (i : Nat) :
    (ofConditions source conditions)[i]? =
      conditions[i]?.map fun condition => ofCondition source (i + 1) condition := by
  rw [ofConditions, List.getElem?_mapIdx]

/-- The operator of a route is that of its word as long as this is ASCII, and the default else. -/
theorem operator_ofConditions {conditions : List String} {i : Nat} {condition : String}
    (hi : conditions[i]? = some condition) {s : Split}
    (hs : IsFirstSplit (strip condition.toList) s) {o : String × String} (ho : o ∈ operatorWords)
    (hword : IsSpelling o.1.toList s.word) (source : Text) :
    operatorWords.lookup (toLowerCase (String.ofList s.word)) =
      (if IsAscii s.word then some o.2 else none) ∧
    (ofConditions source conditions)[i]?.map (·.filter.operator) =
      some (.string (if IsAscii s.word then o.2 else defaultOperator : String)) := by
  refine ⟨lookup_toLowerCase ho hword, ?_⟩
  rw [getElem?_ofConditions, hi, Option.map_some, Option.map_some, ofCondition,
    filterOf_of_isFirstSplit hs, operatorOf_of_isSpelling ho hword]

theorem operator_ofConditions_greater : ∃ s,
    IsFirstSplit (strip "size GREATER than 5".toList) s ∧
    operatorWords.lookup (toLowerCase (String.ofList s.word)) = some "greater" ∧
    (ofConditions "previousModule" ["size GREATER than 5"])[0]?.map (·.filter.operator) =
      some (.string "greater") := by
  have hsplit : splitCondition? (strip "size GREATER than 5".toList) =
      some ("size".toList, "GREATER".toList, "than 5".toList) := by
    decide +kernel
  have htake : takeCaseless "greater".toList "GREATER".toList = some ("GREATER".toList, []) := by
    decide +kernel
  obtain ⟨s, hs, hfound, hspelling⟩ := exists_isFirstSplit_of_takeCaseless hsplit htake
  have hascii : IsAscii s.word := by
    rw [hfound]
    decide
  have hi : ["size GREATER than 5"][0]? = some "size GREATER than 5" := rfl
  have ho : ("greater", "greater") ∈ operatorWords := by decide
  have hoperator := operator_ofConditions hi hs ho hspelling "previousModule"
  rw [if_pos hascii, if_pos hascii] at hoperator
  exact ⟨s, hs, hoperator⟩

/-- A long s is an s where case does not count, and stays what it is in lower case. -/
theorem operator_of_longS : ∃ s, IsFirstSplit (strip "total leſs 5".toList) s ∧
    IsSpelling "less".toList s.word ∧ operatorWords.lookup "less" = some "less" ∧
    operatorWords.lookup (toLowerCase (String.ofList s.word)) = none ∧
    (ofConditions "previousModule" ["total leſs 5"]).map (·.filter.operator) =
      [.string "equal"] := by
  have hsplit : splitCondition? (strip "total leſs 5".toList) =
      some ("total".toList, "leſs".toList, "5".toList) := by
    decide +kernel
  have htake : takeCaseless "less".toList "leſs".toList = some ("leſs".toList, []) := by
    decide +kernel
  obtain ⟨s, hs, hfound, hspelling⟩ := exists_isFirstSplit_of_takeCaseless hsplit htake
  refine ⟨s, hs, hspelling, by decide, ?_, by decide +kernel⟩
  rw [hfound]
  decide +kernel

end Routes

end Automation.Route
