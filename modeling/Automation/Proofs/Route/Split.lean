import Mathlib.Data.List.Infix
import Automation.Proofs.Route.Spelling

/-!
This module contains the split of a condition at a word that compares. A text can often be split in
several ways; the one that is read has the shortest field, and there is just one such split.
-/

namespace Automation.Route

open Text Description

section Search

def IsFlush (cs : List Char) : Prop :=
  ∀ c ∈ cs.head?, Text.isBlank c = false

instance (cs : List Char) : Decidable (IsFlush cs) :=
  decidable_of_iff (cs.head?.all (!Text.isBlank ·) = true) (by simp [IsFlush, Option.all_eq_true])

theorem isFlush_dropBlanks (cs : List Char) : IsFlush (dropBlanks cs) := by
  intro c hc
  have hhead := List.head?_dropWhile_not Text.isBlank cs
  rw [dropBlanks] at hc
  rw [hc] at hhead
  simpa using hhead

def IsOperator (found : List Char) : Prop :=
  ∃ o ∈ operatorWords, IsSpelling o.1.toList found

theorem IsOperator.isBlank {found : List Char} (h : IsOperator found) :
    ∀ c ∈ found, Text.isBlank c = false := by
  obtain ⟨o, ho, hspelling⟩ := h
  exact hspelling.isBlank (smallLetters_operatorWords o ho)

theorem IsOperator.ne_nil {found : List Char} (h : IsOperator found) : found ≠ [] := by
  obtain ⟨o, ho, hspelling⟩ := h
  have hne : operatorWords.all (fun o => o.1.toList ≠ []) = true := by decide
  have hword := List.all_eq_true.1 hne o ho
  rintro rfl
  rw [IsSpelling, List.forall₂_nil_right_iff] at hspelling
  simp [hspelling] at hword

theorem IsOperator.isFlush {found : List Char} (h : IsOperator found) (cs : List Char) :
    IsFlush (found ++ cs) := by
  obtain ⟨c, found, rfl⟩ := List.exists_cons_of_ne_nil h.ne_nil
  rintro d ⟨⟩
  exact h.isBlank c (List.mem_cons_self ..)

theorem afterBlanks?_eq_some_iff {cs rest : List Char} :
    afterBlanks? cs = some rest ↔ ∃ gap, IsBlankRun gap ∧ gap ++ rest = cs ∧ IsFlush rest := by
  constructor
  . intro h
    cases cs with
    | nil => cases h
    | cons c cs =>
      rw [afterBlanks?] at h
      split at h
      . rename_i hblank
        cases h
        refine ⟨c :: cs.takeWhile Text.isBlank, ⟨List.cons_ne_nil _ _, ?_⟩, ?_, ?_⟩
        . rw [List.forall_mem_cons]
          exact ⟨hblank, fun d hd => List.all_eq_true.1 List.all_takeWhile d hd⟩
        . rw [dropBlanks, List.cons_append, List.takeWhile_append_dropWhile]
        . exact isFlush_dropBlanks cs
      . cases h
  . rintro ⟨gap, hgap, rfl, hflush⟩
    obtain ⟨c, gap, rfl⟩ := List.exists_cons_of_ne_nil hgap.ne_nil
    have hblank := List.forall_mem_cons.1 hgap.isBlank
    rw [List.cons_append, afterBlanks?, if_pos hblank.1, dropBlanks,
      List.dropWhile_append_of_pos hblank.2, dropWhile_eq_self hflush]

theorem isBlank_head_of_isBlankRun {gap : List Char} (h : IsBlankRun gap) (cs : List Char) :
    ∀ c ∈ (gap ++ cs).head?, (!Text.isBlank c) = false := by
  obtain ⟨c, gap, rfl⟩ := List.exists_cons_of_ne_nil h.ne_nil
  rintro d ⟨⟩
  simp [h.isBlank c (List.mem_cons_self ..)]

/-- The word that a text begins with is settled, and so is what comes after the blanks behind it. -/
theorem word_unique {found found' right right' value value' : List Char}
    (hfound : ∀ c ∈ found, Text.isBlank c = false) (hfound' : ∀ c ∈ found', Text.isBlank c = false)
    (hright : IsBlankRun right) (hright' : IsBlankRun right') (hvalue : IsFlush value)
    (hvalue' : IsFlush value') (h : found ++ (right ++ value) = found' ++ (right' ++ value')) :
    found = found' ∧ right = right' ∧ value = value' := by
  obtain ⟨hword, hrest⟩ := append_inj_of_border (p := (!Text.isBlank ·)) (by simpa using hfound)
    (by simpa using hfound') (isBlank_head_of_isBlankRun hright value)
    (isBlank_head_of_isBlankRun hright' value') h
  exact ⟨hword, append_inj_of_border hright.isBlank hright'.isBlank hvalue hvalue' hrest⟩

def compared? (word : String) (cs : List Char) : Option (List Char × List Char) :=
  (takeCaseless word.toList cs).bind fun (found, rest) =>
    (afterBlanks? rest).bind fun value =>
      if value.isEmpty || value.contains '\n' then none else some (found, value)

theorem comparison?_eq (cs : List Char) :
    comparison? cs =
      (afterBlanks? cs).bind fun cs => operatorWords.findSome? fun o => compared? o.1 cs := rfl

theorem compared?_eq_some_iff {word : String} {cs found value : List Char} :
    compared? word cs = some (found, value) ↔ IsSpelling word.toList found ∧
      ∃ right, found ++ (right ++ value) = cs ∧ IsBlankRun right ∧
        value ≠ [] ∧ '\n' ∉ value ∧ IsFlush value := by
  constructor
  . intro h
    obtain ⟨⟨found', rest⟩, htake, hfound⟩ := Option.bind_eq_some_iff.1 h
    obtain ⟨value', hafter, hvalue⟩ := Option.bind_eq_some_iff.1 hfound
    obtain ⟨rfl, hspelling⟩ := takeCaseless_eq_some_iff.1 htake
    obtain ⟨right, hright, rfl, hflush⟩ := afterBlanks?_eq_some_iff.1 hafter
    split at hvalue
    . cases hvalue
    . rename_i hnot
      cases hvalue
      rw [Bool.or_eq_true, not_or, List.isEmpty_iff, List.contains_iff_mem] at hnot
      exact ⟨hspelling, right, rfl, hright, hnot.1, hnot.2, hflush⟩
  . rintro ⟨hspelling, right, rfl, hright, hne, hline, hflush⟩
    have hafter := afterBlanks?_eq_some_iff.2 ⟨right, hright, rfl, hflush⟩
    rw [compared?, takeCaseless_eq_some_iff.2 ⟨rfl, hspelling⟩, Option.bind_some]
    dsimp only
    rw [hafter, Option.bind_some, if_neg]
    simp [hne, hline]

theorem comparison?_eq_some_iff {cs found value : List Char} :
    comparison? cs = some (found, value) ↔ ∃ left right,
      left ++ (found ++ (right ++ value)) = cs ∧ IsBlankRun left ∧ IsOperator found ∧
      IsBlankRun right ∧ value ≠ [] ∧ '\n' ∉ value ∧ IsFlush value := by
  rw [comparison?_eq]
  constructor
  . intro h
    obtain ⟨rest, hafter, hsome⟩ := Option.bind_eq_some_iff.1 h
    obtain ⟨left, hleft, rfl, -⟩ := afterBlanks?_eq_some_iff.1 hafter
    obtain ⟨o, ho, hcompared⟩ := List.exists_of_findSome?_eq_some hsome
    obtain ⟨hspelling, right, rfl, hright, hvalue⟩ := compared?_eq_some_iff.1 hcompared
    exact ⟨left, right, rfl, hleft, ⟨o, ho, hspelling⟩, hright, hvalue⟩
  . rintro ⟨left, right, rfl, hleft, ⟨o, ho, hspelling⟩, hright, hvalue⟩
    have hword : IsOperator found := ⟨o, ho, hspelling⟩
    rw [afterBlanks?_eq_some_iff.2 ⟨left, hleft, rfl, hword.isFlush _⟩, Option.bind_some]
    have hfound := compared?_eq_some_iff.2 ⟨hspelling, right, rfl, hright, hvalue⟩
    apply findSome?_eq_some ho hfound
    -- The words are tried in turn, but no two of them find different things.
    intro o' ho'
    cases hcompared : compared? o'.1 (found ++ (right ++ value)) with
    | none => exact .inl rfl
    | some result =>
      obtain ⟨hspelling', right', htext, hright', hvalue'⟩ := compared?_eq_some_iff.1 hcompared
      obtain ⟨hsame, -, hsame'⟩ := word_unique (IsOperator.isBlank ⟨o', ho', hspelling'⟩)
        hword.isBlank hright' hright hvalue'.2.2 hvalue.2.2 htext
      exact .inr (congrArg some (Prod.ext hsame hsame'))

end Search

structure Split where
  field : List Char
  left : List Char
  word : List Char
  right : List Char
  value : List Char
  deriving Repr, DecidableEq

structure IsSplit (cs : List Char) (s : Split) : Prop where
  text : s.field ++ (s.left ++ (s.word ++ (s.right ++ s.value))) = cs
  field_ne_nil : s.field ≠ []
  field_line : '\n' ∉ s.field
  left : IsBlankRun s.left
  word : IsOperator s.word
  right : IsBlankRun s.right
  value_ne_nil : s.value ≠ []
  value_line : '\n' ∉ s.value

/-- Whether no split has a shorter field, nor this field and more blanks. -/
structure IsFirstSplit (cs : List Char) (s : Split) : Prop where
  isSplit : IsSplit cs s
  shortest : ∀ t, IsSplit cs t → s.field <+: t.field
  flush : IsFlush s.value

section Split

variable {cs : List Char} {s t : Split}

theorem IsFirstSplit.unique (hs : IsFirstSplit cs s) (ht : IsFirstSplit cs t) : s = t := by
  have hfield := prefix_antisymm (hs.shortest t ht.isSplit) (ht.shortest s hs.isSplit)
  have htext := hs.isSplit.text.trans ht.isSplit.text.symm
  rw [hfield, List.append_cancel_left_eq] at htext
  obtain ⟨hleft, hrest⟩ := append_inj_of_border hs.isSplit.left.isBlank ht.isSplit.left.isBlank
    (hs.isSplit.word.isFlush _) (ht.isSplit.word.isFlush _) htext
  obtain ⟨hword, hright, hvalue⟩ := word_unique hs.isSplit.word.isBlank ht.isSplit.word.isBlank
    hs.isSplit.right ht.isSplit.right hs.flush ht.flush hrest
  cases s
  cases t
  simp_all

theorem IsSplit.comparison?_eq (h : IsSplit cs s) (hflush : IsFlush s.value) :
    comparison? (s.left ++ (s.word ++ (s.right ++ s.value))) = some (s.word, s.value) :=
  comparison?_eq_some_iff.2
    ⟨s.left, s.right, rfl, h.left, h.word, h.right, h.value_ne_nil, h.value_line, hflush⟩

theorem exists_isSplit_of_comparison? {field rest found value : List Char} (hne : field ≠ [])
    (hline : '\n' ∉ field) (h : comparison? rest = some (found, value)) :
    ∃ s, IsSplit (field ++ rest) s ∧ (s.field, s.word, s.value) = (field, found, value) ∧
      IsFlush s.value := by
  obtain ⟨left, right, rfl, hleft, hword, hright, hvalue, hvalueLine, hflush⟩ :=
    comparison?_eq_some_iff.1 h
  exact ⟨⟨field, left, found, right, value⟩,
    ⟨rfl, hne, hline, hleft, hword, hright, hvalue, hvalueLine⟩, rfl, hflush⟩

/-- The field is read on, where it is on one line, to the first place at which it may end. -/
theorem splitCondition?_go_cons (field : List Char) (c : Char) (cs : List Char) :
    (if c = '\n' then none else splitCondition?.go (c :: field) cs) =
      ((shortest comparison? (c :: cs)).filter ('\n' ∉ ·.1)).map fun (span, found) =>
        (field.reverse ++ span, found) := by
  induction cs generalizing field c with
  | nil => simp [splitCondition?.go, shortest, comparison?, afterBlanks?]
  | cons d cs ih =>
    rw [shortest]
    by_cases hline : c = '\n'
    . rw [if_pos hline]
      cases comparison? (d :: cs) with
      | some found => simp [Option.filter, hline]
      | none => cases shortest comparison? (d :: cs) <;> simp [Option.filter, hline]
    . rw [if_neg hline, splitCondition?.go, if_neg (by simp)]
      cases comparison? (d :: cs) with
      | some found => simp [Option.filter, Ne.symm hline]
      | none =>
        dsimp only
        rw [ih (c :: field) d]
        cases shortest comparison? (d :: cs) with
        | none => rfl
        | some found =>
          by_cases hspan : '\n' ∈ found.1
          . simp [Option.filter, hspan]
          . simp [Option.filter, hspan, Ne.symm hline]

theorem splitCondition?_eq (cs : List Char) :
    splitCondition? cs = (shortest comparison? cs).filter ('\n' ∉ ·.1) := by
  cases cs with
  | nil => rfl
  | cons c cs =>
    have hread := splitCondition?_go_cons [] c cs
    rw [splitCondition?, splitCondition?.go]
    simpa using hread

section Flush

variable (hlast : ∀ c ∈ cs.getLast?, Text.isBlank c = false)

include hlast

theorem IsSplit.exists_flush (h : IsSplit cs s) :
    ∃ t, IsSplit cs t ∧ t.field = s.field ∧ IsFlush t.value := by
  refine ⟨{ s with
    right := s.right ++ s.value.takeWhile Text.isBlank
    value := dropBlanks s.value }, ?_, rfl, isFlush_dropBlanks s.value⟩
  refine { h with text := ?_, right := ?_, value_ne_nil := ?_, value_line := ?_ }
  . rw [dropBlanks, List.append_assoc, List.takeWhile_append_dropWhile, h.text]
  . refine ⟨List.append_ne_nil_of_left_ne_nil h.right.ne_nil _, fun c hc => ?_⟩
    rcases List.mem_append.1 hc with hc | hc
    . exact h.right.isBlank c hc
    . exact List.all_eq_true.1 List.all_takeWhile c hc
  . obtain ⟨ys, c, hvalue⟩ := (List.eq_nil_or_concat s.value).resolve_left h.value_ne_nil
    have hc : c ∈ s.value := by simp [hvalue]
    have hblank := hlast c (by simp [← h.text, hvalue])
    exact List.ne_nil_of_mem (mem_dropWhile hc hblank)
  . exact fun hc => h.value_line ((List.dropWhile_sublist _).subset hc)

theorem IsSplit.exists_comparison? (h : IsSplit cs s) :
    ∃ rest, s.field ++ rest = cs ∧ comparison? rest ≠ none := by
  obtain ⟨t, ht, hfield, hflush⟩ := h.exists_flush hlast
  refine ⟨_, hfield ▸ ht.text, ?_⟩
  rw [ht.comparison?_eq hflush]
  exact Option.some_ne_none _

theorem exists_isFirstSplit {field found value : List Char}
    (h : splitCondition? cs = some (field, found, value)) :
    ∃ s, IsFirstSplit cs s ∧ (s.field, s.word, s.value) = (field, found, value) := by
  rw [splitCondition?_eq, Option.filter_eq_some_iff] at h
  obtain ⟨hshort, hline⟩ := h
  obtain ⟨rest, rfl, hne, hfound, hleast⟩ := exists_of_shortest hshort
  obtain ⟨s, hs, hparts, hflush⟩ :=
    exists_isSplit_of_comparison? hne (by simpa using hline) hfound
  refine ⟨s, ⟨hs, fun t ht => ?_, hflush⟩, hparts⟩
  obtain ⟨rest', htext, hstop⟩ := ht.exists_comparison? hlast
  obtain ⟨rfl, -⟩ := Prod.mk.inj hparts
  exact hleast t.field rest' htext ht.field_ne_nil hstop

theorem splitCondition?_eq_none_iff : splitCondition? cs = none ↔ ∀ s, ¬ IsSplit cs s := by
  constructor
  . intro h s hs
    obtain ⟨rest, htext, hstop⟩ := hs.exists_comparison? hlast
    rw [splitCondition?_eq] at h
    cases hshort : shortest comparison? cs with
    | none => exact hstop (shortest_eq_none_iff.1 hshort _ _ htext hs.field_ne_nil)
    | some found =>
      obtain ⟨-, -, -, -, hleast⟩ := exists_of_shortest hshort
      have hprefix := hleast s.field rest htext hs.field_ne_nil hstop
      have hline : '\n' ∉ found.1 := fun hmem => hs.field_line (List.IsPrefix.subset hprefix hmem)
      simp [hshort, Option.filter, hline] at h
  . intro h
    cases hsplit : splitCondition? cs with
    | none => rfl
    | some found =>
      obtain ⟨s, hs, -⟩ := exists_isFirstSplit hlast hsplit
      exact absurd hs.isSplit (h s)

theorem splitCondition?_of_isFirstSplit (h : IsFirstSplit cs s) :
    splitCondition? cs = some (s.field, s.word, s.value) := by
  cases hsplit : splitCondition? cs with
  | none => exact absurd h.isSplit ((splitCondition?_eq_none_iff hlast).1 hsplit s)
  | some found =>
    obtain ⟨t, ht, hparts⟩ := exists_isFirstSplit hlast hsplit
    rw [h.unique ht, hparts]

end Flush

end Split

section Clear

/-- Whether a text lies on one line and is neither empty nor begins or ends with a blank. -/
structure IsSplitPart (cs : List Char) : Prop where
  ne_nil : cs ≠ []
  line : '\n' ∉ cs
  flush : IsFlush cs
  last : ∀ c ∈ cs.getLast?, Text.isBlank c = false

instance (cs : List Char) : Decidable (IsSplitPart cs) :=
  decidable_of_iff (cs ≠ [] ∧ '\n' ∉ cs ∧ IsFlush cs ∧ IsFlush cs.reverse)
    ⟨fun h => ⟨h.1, h.2.1, h.2.2.1, by simpa [IsFlush] using h.2.2.2⟩,
      fun h => ⟨h.ne_nil, h.line, h.flush, by simpa [IsFlush] using h.last⟩⟩

def IsDelimited (cs : List Char) : Prop :=
  ∃ b found b', Text.isBlank b = true ∧ IsOperator found ∧ Text.isBlank b' = true ∧
    cs = b :: (found ++ [b'])

/-- Whether a text is split at an operator word in ASCII, with none in the field before it. -/
structure IsClearSplit (cs : List Char) (o : String × String) (s : Split) : Prop where
  text : s.field ++ (s.left ++ (s.word ++ (s.right ++ s.value))) = cs
  operator : o ∈ operatorWords
  word : IsSpelling o.1.toList s.word
  ascii : IsAscii s.word
  left : IsBlankRun s.left
  right : IsBlankRun s.right
  field : IsSplitPart s.field
  value : IsSplitPart s.value
  first : ∀ delimited, IsDelimited delimited → ¬ delimited <:+: (s.field ++ [' ']).tail

variable {cs : List Char} {o : String × String} {s : Split}

theorem not_infix_of_isDelimited
    (h : cs.tails.all fun t => operatorWords.all fun o => (takeCaseless o.1.toList t).isNone)
    {delimited : List Char} (hdelimited : IsDelimited delimited) : ¬ delimited <:+: cs := by
  rintro ⟨before, after, rfl⟩
  obtain ⟨b, found, b', -, ⟨o, ho, hspelling⟩, -, rfl⟩ := hdelimited
  have hsuffix : found ++ b' :: after ∈ (before ++ b :: (found ++ [b']) ++ after).tails := by
    rw [List.mem_tails]
    exact ⟨before ++ [b], by simp⟩
  have hnone := List.all_eq_true.1 (List.all_eq_true.1 h _ hsuffix) o ho
  rw [takeCaseless_eq_some_iff.2 ⟨rfl, hspelling⟩] at hnone
  cases hnone

theorem IsClearSplit.isSplit (h : IsClearSplit cs o s) : IsSplit cs s where
  text := h.text
  field_ne_nil := h.field.ne_nil
  field_line := h.field.line
  left := h.left
  word := ⟨o, h.operator, h.word⟩
  right := h.right
  value_ne_nil := h.value.ne_nil
  value_line := h.value.line

/-- An operator word that begins before a blank, after blanks, ends before it as well. -/
theorem exists_isDelimited {u left found right value gap rest : List Char}
    (hlast : ∀ c ∈ u.getLast?, Text.isBlank c = false) (hne : u ≠ []) (hleft : IsBlankRun left)
    (hfound : IsOperator found) (hright : IsBlankRun right) (hgap : IsBlankRun gap)
    (htext : left ++ (found ++ (right ++ value)) = u ++ (gap ++ rest)) :
    ∃ delimited, IsDelimited delimited ∧ delimited <:+: u ++ [' '] := by
  obtain ⟨blanks, b, hblanks⟩ := (List.eq_nil_or_concat left).resolve_left hleft.ne_nil
  have hb := hleft.isBlank b (by simp [hblanks])
  rcases List.append_eq_append_iff.1 htext with ⟨v, rfl, hv⟩ | ⟨v, rfl, -⟩
  . obtain ⟨w, rfl⟩ := prefix_of_border (p := (!Text.isBlank ·)) (by simpa using hfound.isBlank)
      (isBlank_head_of_isBlankRun hgap rest) hv
    rw [List.append_assoc, List.append_cancel_left_eq] at hv
    obtain ⟨b', w', hw, hb'⟩ : ∃ b' w', w ++ [' '] = b' :: w' ∧ Text.isBlank b' = true := by
      cases w with
      | nil => exact ⟨' ', [], rfl, isBlank_space⟩
      | cons b' w =>
        obtain ⟨c, right, rfl⟩ := List.exists_cons_of_ne_nil hright.ne_nil
        rw [List.cons_append, List.cons_append, List.cons.injEq] at hv
        exact ⟨b', w ++ [' '], rfl, hv.1 ▸ hright.isBlank c (List.mem_cons_self ..)⟩
    refine ⟨_, ⟨b, found, b', hb, hfound, hb', rfl⟩, blanks, w', ?_⟩
    simp [hblanks, hw]
  . -- Otherwise the text would end within the blanks.
    obtain ⟨ys, c, hys⟩ := (List.eq_nil_or_concat u).resolve_left hne
    have hblank := hleft.isBlank c (by simp [hys])
    rw [hlast c (by simp [hys])] at hblank
    cases hblank

theorem IsClearSplit.isFirstSplit (h : IsClearSplit cs o s) : IsFirstSplit cs s := by
  refine ⟨h.isSplit, fun t ht => ?_, h.value.flush⟩
  have hprefix : t.field <+: cs := ⟨_, ht.text⟩
  have hprefix' : s.field <+: cs := ⟨_, h.text⟩
  rcases List.prefix_or_prefix_of_prefix hprefix' hprefix with hle | ⟨u, hu⟩
  . exact hle
  . by_cases hnil : u = []
    . simp [← hu, hnil]
    exfalso
    have htext := ht.text.trans h.text.symm
    rw [← hu, List.append_assoc, List.append_cancel_left_eq] at htext
    have hlast : ∀ c ∈ u.getLast?, Text.isBlank c = false := by
      intro c hc
      apply h.field.last
      obtain ⟨ys, hys⟩ := List.getLast?_eq_some_iff.1 hc
      simp [← hu, hys]
    obtain ⟨delimited, hdelimited, hinfix⟩ :=
      exists_isDelimited hlast hnil ht.left ht.word ht.right h.left htext
    apply h.first delimited hdelimited
    obtain ⟨c, field, hfield⟩ := List.exists_cons_of_ne_nil ht.field_ne_nil
    rw [← hu, hfield, List.append_assoc, List.cons_append, List.tail_cons]
    exact hinfix.trans (List.suffix_append field _).isInfix

end Clear

end Automation.Route
