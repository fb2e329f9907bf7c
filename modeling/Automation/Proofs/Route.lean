import Automation.Proofs.Description.Comparison

/-!
This module contains the route of a comparison: its condition is split at the word that compares,
into the field before and the value after it.
-/

namespace Automation.Route

open Text Description

section Caseless

def smallLetters : List Char :=
  "abcdefghijklmnopqrstuvwxyz".toList

theorem isLetter_eq {letter c : Char} (hletter : letter ∈ smallLetters)
    (hc : c ∈ ' ' :: ',' :: plainChars) : isLetter letter c = (c == letter) := by
  have hall : smallLetters.all (fun l => (' ' :: ',' :: plainChars).all fun c =>
      isLetter l c == (c == l)) = true := by
    decide +kernel
  have hcase := List.all_eq_true.1 (List.all_eq_true.1 hall letter hletter) c hc
  exact beq_iff_eq.1 hcase

variable {p w r : List Char}

theorem takeCaseless_append (hp : ∀ c ∈ p, c ∈ smallLetters) (hw : ∀ c ∈ w, c ∈ plainChars)
    (hr : Breaks r) :
    takeCaseless p (w ++ r) = if p <+: w then some (p, w.drop p.length ++ r) else none := by
  induction p generalizing w with
  | nil => simp [takeCaseless]
  | cons letter p ih =>
    rw [List.forall_mem_cons] at hp
    cases w with
    | nil =>
      rw [List.nil_append, if_neg (by simp)]
      cases r with
      | nil => rfl
      | cons c r =>
        have hc : c ∈ ' ' :: ',' :: plainChars := by
          rcases hr c rfl with rfl | rfl <;> simp
        have hne : (c == letter) = false := by
          have hletter := isUnbroken_plainChars letter (List.mem_append_left _ hp.1)
          rcases hr c rfl with rfl | rfl
          . simpa using hletter.1.symm
          . simpa using hletter.2.symm
        rw [takeCaseless, isLetter_eq hp.1 hc, hne]
        rfl
    | cons c w =>
      rw [List.forall_mem_cons] at hw
      rw [List.cons_append, takeCaseless, isLetter_eq hp.1 (by simp [hw.1]), ih hp.2 hw.2]
      by_cases hc : c = letter
      . subst hc
        by_cases hstarts : p <+: w
        . simp [hstarts]
        . simp [hstarts]
      . have hstarts : ¬ letter :: p <+: c :: w := fun h => hc (List.cons_prefix_cons.1 h).1.symm
        rw [if_neg (by simpa using hc), if_neg hstarts]

/-- No other word than the word itself is found in a simple word with a blank after it. -/
theorem afterBlanks?_of_takeCaseless (hp : ∀ c ∈ p, c ∈ smallLetters)
    (hw : ∀ c ∈ w, c ∈ plainChars) (hr : Breaks r) (hne : w ≠ p) {found rest : List Char}
    (h : takeCaseless p (w ++ r) = some (found, rest)) : afterBlanks? rest = none := by
  rw [takeCaseless_append hp hw hr] at h
  split at h
  . rename_i hstarts
    obtain ⟨t, rfl⟩ := hstarts
    cases t with
    | nil => exact absurd (List.append_nil p) hne
    | cons c t =>
      have hblank := isBlank_of_mem (hw c (by simp))
      rw [List.drop_left, Option.some.injEq, Prod.mk.injEq] at h
      rw [← h.2, List.cons_append, afterBlanks?, hblank]
      rfl
  . cases h

theorem takeCaseless_self (hp : ∀ c ∈ p, c ∈ smallLetters) (hr : Breaks r) :
    takeCaseless p (p ++ r) = some (p, r) := by
  rw [takeCaseless_append hp (fun c hc => List.mem_append_left _ (hp c hc)) hr, if_pos]
  . simp
  . exact List.prefix_refl p

end Caseless

section Split

theorem dropBlanks_append {w : List Char} (h : IsBlankFree w) (r : List Char) :
    dropBlanks (w ++ r) = w ++ r := by
  obtain ⟨c, w, rfl⟩ := List.exists_cons_of_ne_nil h.ne_nil
  exact List.dropWhile_cons_of_neg (by simp [h.isBlank c (List.mem_cons_self ..)])

theorem afterBlanks?_space {w : List Char} (h : IsBlankFree w) (r : List Char) :
    afterBlanks? (' ' :: (w ++ r)) = some (w ++ r) := by
  rw [afterBlanks?, if_pos isBlank_space, dropBlanks_append h]

theorem smallLetters_operatorWords :
    ∀ o ∈ operatorWords, ∀ c ∈ o.1.toList, c ∈ smallLetters := by
  have hall : operatorWords.all (fun o => o.1.toList.all (· ∈ smallLetters)) = true := by decide
  simpa only [List.all_eq_true, decide_eq_true_eq] using hall

theorem comparison?_eq_none {w r : List Char} (hw : IsSimpleWord w)
    (hoperator : w ∉ operatorWords.map (·.1.toList)) (hr : Breaks r) :
    comparison? (' ' :: (w ++ r)) = none := by
  rw [comparison?, afterBlanks?_space hw.isBlankFree, Option.bind_some,
    List.findSome?_eq_none_iff]
  intro o ho
  rw [Option.bind_eq_none_iff]
  rintro ⟨found, rest⟩ hfound
  have hblanks := afterBlanks?_of_takeCaseless (smallLetters_operatorWords o ho) hw.plain hr
    (by rintro rfl; exact hoperator (List.mem_map_of_mem ho)) hfound
  dsimp only
  rw [hblanks]
  rfl

theorem comparison?_suffix {ws : List (List Char)} (h : ∀ w ∈ ws, IsSimpleWord w ∧
    w ∉ operatorWords.map (·.1.toList)) {v rest : List Char} (hrest : Breaks rest)
    (hv : v <:+ joinWords ws) (hne : v ≠ []) : comparison? (v ++ rest) = none := by
  rcases suffix_joinWords hv hne with ⟨w, hw, c, hc, r, rfl⟩ | ⟨w, hw, r, hr, rfl⟩
  . have hblank := isBlank_of_mem ((h w hw).1.plain c hc)
    rw [comparison?, List.cons_append, afterBlanks?, hblank]
    rfl
  . rw [List.cons_append, List.append_assoc]
    exact comparison?_eq_none (h w hw).1 (h w hw).2 (hr.append hrest)

theorem splitCondition?_go_append {u rest field : List Char} (hline : '\n' ∉ u)
    (h : ∀ v, v <:+ u → v ≠ [] → comparison? (v ++ rest) = none) :
    splitCondition?.go field (u ++ rest) = splitCondition?.go (u.reverse ++ field) rest := by
  induction u generalizing field with
  | nil => rfl
  | cons c u ih =>
    have hhere := h (c :: u) (List.suffix_refl _) (List.cons_ne_nil _ _)
    rw [List.mem_cons, not_or] at hline
    rw [List.cons_append] at hhere
    rw [List.cons_append, splitCondition?.go, hhere, ite_self]
    dsimp only
    rw [if_neg (Ne.symm hline.1), ih hline.2 fun v hv => h v (hv.trans (List.suffix_cons c u))]
    simp

theorem not_mem_joinWords {ws : List (List Char)} (h : ∀ w ∈ ws, IsSimpleWord w) :
    '\n' ∉ joinWords ws := by
  intro hmem
  rcases mem_joinWords hmem with heq | ⟨w, hw, hc⟩
  . cases heq
  . exact absurd ((h w hw).plain _ hc) (by decide)

/-- The first result is found where all members give none or the same. -/
theorem findSome?_eq_some {f : α → Option β} {xs : List α} {x : α} {b : β} (hx : x ∈ xs)
    (hb : f x = some b) (h : ∀ y ∈ xs, f y = none ∨ f y = some b) : xs.findSome? f = some b := by
  induction xs with
  | nil => cases hx
  | cons y ys ih =>
    rw [List.forall_mem_cons] at h
    rw [List.findSome?_cons]
    rcases h.1 with hnone | hsome
    . rw [hnone]
      rcases List.mem_cons.1 hx with rfl | hx
      . rw [hnone] at hb
        cases hb
      . exact ih hx h.2
    . rw [hsome]

theorem comparison?_operator {o : String × String} (ho : o ∈ operatorWords) {value : List Char}
    (hblank : dropBlanks value = value) (hne : value ≠ []) (hline : '\n' ∉ value) :
    comparison? (' ' :: (o.1.toList ++ ' ' :: value)) = some (o.1.toList, value) := by
  have hsimple : ∀ o ∈ operatorWords, IsSimpleWord o.1.toList := fun o ho =>
    (Comparison.isSimpleWord_operatorWords o ho).1
  have hvalue : afterBlanks? (' ' :: value) = some value := by
    rw [afterBlanks?, if_pos isBlank_space, hblank]
  have hword : ∀ o ∈ operatorWords, takeCaseless o.1.toList (o.1.toList ++ ' ' :: value) =
      some (o.1.toList, ' ' :: value) := fun o ho =>
    takeCaseless_self (smallLetters_operatorWords o ho) (breaks_space _)
  rw [comparison?, afterBlanks?_space (hsimple o ho).isBlankFree, Option.bind_some]
  apply findSome?_eq_some ho
  . dsimp only
    rw [hword o ho, Option.bind_some, hvalue, Option.bind_some, if_neg]
    simp [hne, hline]
  . intro o' ho'
    by_cases heq : o.1.toList = o'.1.toList
    . right
      dsimp only
      rw [← heq, hword o ho, Option.bind_some, hvalue, Option.bind_some, if_neg]
      simp [hne, hline]
    . left
      rw [Option.bind_eq_none_iff]
      rintro ⟨found, rest⟩ hfound
      have hblanks := afterBlanks?_of_takeCaseless (smallLetters_operatorWords o' ho')
        (hsimple o ho).plain (breaks_space _) heq hfound
      dsimp only
      rw [hblanks]
      rfl

end Split

section Comparison

variable {q : Comparison}

theorem dropBlanks_value (h : q.IsSimple) : dropBlanks (joinWords q.value) = joinWords q.value := by
  obtain ⟨w, ws, hvalue⟩ := List.exists_cons_of_ne_nil h.value_ne_nil
  obtain ⟨r, -, hjoin⟩ := joinWords_cons_breaks w ws
  have hw := h.of_mem_value w (by simp [hvalue])
  rw [hvalue, hjoin, dropBlanks_append hw.isBlankFree]

theorem condition_eq (h : q.IsSimple) : q.condition =
    joinWords q.field ++ ' ' :: (q.word.toList ++ ' ' :: joinWords q.value) := by
  rw [Comparison.condition, joinWords_append h.field_ne_nil (List.cons_ne_nil _ _),
    joinWords_cons _ h.value_ne_nil]

theorem splitCondition?_condition (h : q.IsSimple) : splitCondition? q.condition =
    some (joinWords q.field, q.word.toList, joinWords q.value) := by
  have hfield : joinWords q.field ≠ [] :=
    joinWords_ne_nil h.field_ne_nil fun w hw => (h.of_mem_field w hw).1.ne_nil
  have hvalue : joinWords q.value ≠ [] :=
    joinWords_ne_nil h.value_ne_nil fun w hw => (h.of_mem_value w hw).ne_nil
  have hcomparison := comparison?_operator h.operator (dropBlanks_value h) hvalue
    (not_mem_joinWords h.of_mem_value)
  rw [condition_eq h, splitCondition?, splitCondition?_go_append
    (not_mem_joinWords fun w hw => (h.of_mem_field w hw).1)
    fun v hv hne => comparison?_suffix h.of_mem_field (breaks_space _) hv hne,
    List.append_nil, splitCondition?.go, if_neg (by simpa using hfield)]
  dsimp only at hcomparison
  rw [hcomparison]
  simp

theorem dropFiller_value (h : q.IsSimple) : dropFiller (joinWords q.value) = joinWords q.value := by
  obtain ⟨w, ws, hvalue⟩ := List.exists_cons_of_ne_nil h.value_ne_nil
  obtain ⟨r, hr, hjoin⟩ := joinWords_cons_breaks w ws
  have hw := h.of_mem_value w (by simp [hvalue])
  have hfiller : ∀ word ∈ fillerWords, (∀ c ∈ word.toList, c ∈ smallLetters) ∧ w ≠ word.toList := by
    have hhead := h.value w (by simp [hvalue])
    simp only [fillerWords, List.forall_mem_cons]
    have hletters : fillerWords.all (fun word => word.toList.all (· ∈ smallLetters)) = true := by
      decide
    simp only [fillerWords, List.all_eq_true, List.forall_mem_cons, decide_eq_true_eq] at hletters
    exact ⟨⟨hletters.1, hhead.1⟩, ⟨hletters.2.1, hhead.2⟩, by simp⟩
  rw [dropFiller, List.findSome?_eq_none_iff.2]
  . rfl
  . intro word hword
    rw [Option.bind_eq_none_iff, hvalue, hjoin]
    rintro ⟨found, rest⟩ hfound
    exact afterBlanks?_of_takeCaseless (hfiller word hword).1 hw.plain hr (hfiller word hword).2
      hfound

theorem operatorOf_operatorWords : ∀ o ∈ operatorWords, operatorOf o.1 = o.2 := by
  decide +kernel

theorem filterOf_condition (h : q.IsSimple) (source : Text) (name : String) :
    filterOf source name (String.ofList q.condition) =
      { name := .string name
        field := .string (fieldSlot source (String.ofList (joinWords q.field)))
        operator := .string q.operator
        value := .string (String.ofList (joinWords q.value)) } := by
  have hoperator := operatorOf_operatorWords (q.word, q.operator) h.operator
  dsimp only at hoperator
  rw [filterOf, String.toList_ofList, strip_condition h, splitCondition?_condition h]
  dsimp only
  rw [dropFiller_value h, String.ofList_toList, hoperator]

end Comparison

end Automation.Route
