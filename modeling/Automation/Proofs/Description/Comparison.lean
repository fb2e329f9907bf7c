import Automation.Proofs.Description.Normal
import Automation.Proofs.Description.Numeral
import Automation.Proofs.Description.Segments
import Automation.Proofs.Text.Strip
import Automation.Route

/-!
This module contains descriptions that are made of comparisons, each of which tells what to do where
it holds: "if total is greater then send a note". The comparisons and the actions are found in such
a description just as they were put into it, and nothing else is.
-/

namespace Automation.Description

open Text

structure IsSimpleWord (w : List Char) : Prop where
  ne_nil : w ≠ []
  plain : ∀ c ∈ w, c ∈ plainChars

def reservedWords : List (List Char) :=
  ["if", "then", "and", "when", "check", "checks", "every", "trigger", "triggered", "start", "starts",
    "watch", "watches", "monitor", "monitors"].map String.toList

/-- A field, a word that compares it with a value, and what to do where the comparison holds. -/
structure Comparison where
  field : List (List Char)
  word : String
  operator : String
  value : List (List Char)
  action : List (List Char)

namespace Comparison

structure IsSimple (q : Comparison) : Prop where
  field_ne_nil : q.field ≠ []
  value_ne_nil : q.value ≠ []
  action_ne_nil : q.action ≠ []
  simple : ∀ w ∈ q.field ++ q.value ++ q.action, IsSimpleWord w ∧ w ∉ reservedWords
  operator : (q.word, q.operator) ∈ Route.operatorWords
  field : ∀ w ∈ q.field, w ∉ Route.operatorWords.map (·.1.toList)
  value : ∀ w ∈ q.value.head?, w ≠ "than".toList ∧ w ≠ "to".toList

def condition (q : Comparison) : List Char :=
  joinWords (q.field ++ q.word.toList :: q.value)

def opening (q : Comparison) : List (List Char) :=
  "if".toList :: (q.field ++ q.word.toList :: q.value)

def words (q : Comparison) : List (List Char) :=
  q.opening ++ "then".toList :: q.action

def text (q : Comparison) : List Char :=
  joinWords q.words

end Comparison

def compared (qs : List Comparison) : List Char :=
  [',', ' '].intercalate (qs.map (·.text))

section Simple

variable {w : List Char}

theorem IsSimpleWord.isBlankFree (h : IsSimpleWord w) : IsBlankFree w :=
  ⟨h.ne_nil, fun c hc => isBlank_of_mem (h.plain c hc)⟩

theorem isUnbroken_plainChars : IsUnbroken plainChars :=
  isUnbroken_iff.2 (by decide)

theorem IsSimpleWord.isUnbroken (h : IsSimpleWord w) : IsUnbroken w :=
  fun c hc => isUnbroken_plainChars c (h.plain c hc)

theorem IsSimpleWord.isPlain (h : IsSimpleWord w) : IsPlain w := by
  refine ⟨h.ne_nil, fun c hc => ?_⟩
  have hall : plainChars.all isWord = true := by decide +kernel
  exact List.all_eq_true.1 hall c (h.plain c hc)

theorem IsPlain.eq_of_startsWithWord (h : IsPlain w) {word : List Char}
    (hstarts : StartsWithWord word w) : w = word := by
  obtain ⟨rest, rfl, hrest⟩ := hstarts
  cases rest with
  | nil => rw [List.append_nil]
  | cons c rest =>
    rw [startsInWord_cons, h.isWord c (by simp)] at hrest
    cases hrest

instance (w : List Char) : Decidable (IsSimpleWord w) :=
  decidable_of_iff (w ≠ [] ∧ w.all (· ∈ plainChars) = true)
    ⟨fun h => ⟨h.1, by simpa using h.2⟩, fun h => ⟨h.ne_nil, by simpa using h.plain⟩⟩

end Simple

namespace Comparison

variable {q : Comparison}

instance (q : Comparison) : Decidable q.IsSimple :=
  decidable_of_iff (q.field ≠ [] ∧ q.value ≠ [] ∧ q.action ≠ [] ∧
      (∀ w ∈ q.field ++ q.value ++ q.action, IsSimpleWord w ∧ w ∉ reservedWords) ∧
      (q.word, q.operator) ∈ Route.operatorWords ∧
      (∀ w ∈ q.field, w ∉ Route.operatorWords.map (·.1.toList)) ∧
      ∀ w ∈ q.value.head?, w ≠ "than".toList ∧ w ≠ "to".toList)
    ⟨fun ⟨h₁, h₂, h₃, h₄, h₅, h₆, h₇⟩ => ⟨h₁, h₂, h₃, h₄, h₅, h₆, h₇⟩,
      fun ⟨h₁, h₂, h₃, h₄, h₅, h₆, h₇⟩ => ⟨h₁, h₂, h₃, h₄, h₅, h₆, h₇⟩⟩

theorem isSimpleWord_operatorWords : ∀ o ∈ Route.operatorWords,
    IsSimpleWord o.1.toList ∧ o.1.toList ∉ reservedWords := by
  decide +kernel

theorem IsSimple.word (h : q.IsSimple) :
    IsSimpleWord q.word.toList ∧ q.word.toList ∉ reservedWords :=
  isSimpleWord_operatorWords _ h.operator

theorem IsSimple.of_mem_field (h : q.IsSimple) :
    ∀ w ∈ q.field, IsSimpleWord w ∧ w ∉ Route.operatorWords.map (·.1.toList) :=
  fun w hw => ⟨(h.simple w (by simp [hw])).1, h.field w hw⟩

theorem IsSimple.of_mem_value (h : q.IsSimple) : ∀ w ∈ q.value, IsSimpleWord w :=
  fun w hw => (h.simple w (by simp [hw])).1

theorem IsSimple.of_mem_condition (h : q.IsSimple) :
    ∀ w ∈ q.field ++ q.word.toList :: q.value, IsSimpleWord w ∧ w ∉ reservedWords := by
  intro w hw
  rcases List.mem_append.1 hw with hw | hw
  . exact h.simple w (by simp [hw])
  . rcases List.mem_cons.1 hw with rfl | hw
    . exact h.word
    . exact h.simple w (by simp [hw])

theorem IsSimple.of_mem_action (h : q.IsSimple) :
    ∀ w ∈ q.action, IsSimpleWord w ∧ w ∉ reservedWords := by
  intro w hw
  exact h.simple w (by simp [hw])

theorem IsSimple.of_mem_words (h : q.IsSimple) : ∀ w ∈ q.words, IsSimpleWord w ∧
    (w = "if".toList ∨ w = "then".toList ∨ w ∉ reservedWords) := by
  intro w hw
  rcases List.mem_append.1 hw with hw | hw
  . rcases List.mem_cons.1 hw with rfl | hw
    . exact ⟨by decide, .inl rfl⟩
    . exact (h.of_mem_condition w hw).imp_right fun h => .inr (.inr h)
  . rcases List.mem_cons.1 hw with rfl | hw
    . exact ⟨by decide, .inr (.inl rfl)⟩
    . exact (h.of_mem_action w hw).imp_right fun h => .inr (.inr h)

def premise (q : Comparison) : List (List Char) :=
  q.opening ++ ["then".toList]

theorem IsSimple.text_eq (h : q.IsSimple) :
    q.text = joinWords q.premise ++ ' ' :: joinWords q.action := by
  have hwords : q.words = q.premise ++ q.action := by
    simp [words, premise]
  rw [text, hwords, joinWords_append (by simp [premise]) h.action_ne_nil]

theorem joinWords_premise (q : Comparison) :
    joinWords q.premise = "if ".toList ++ (q.condition ++ " then".toList) := by
  rw [premise, opening, joinWords_append (List.cons_ne_nil _ _) (List.cons_ne_nil _ _),
    joinWords_cons _ (by simp), joinWords_singleton, List.append_assoc]
  rfl

theorem IsSimple.isPlain_of_mem_premise (h : q.IsSimple) : ∀ w ∈ q.premise, IsPlain w := by
  intro w hw
  refine (h.of_mem_words w ?_).1.isPlain
  simp only [premise, words, List.mem_append, List.mem_cons] at hw ⊢
  grind

end Comparison

section Starts

def continued (qs : List Comparison) : List Char :=
  qs.flatMap fun q => ',' :: ' ' :: q.text

theorem continued_cons (q : Comparison) (qs : List Comparison) :
    continued (q :: qs) = ',' :: ' ' :: (q.text ++ continued qs) := rfl

theorem breaks_continued (qs : List Comparison) : Breaks (continued qs) := by
  cases qs with
  | nil => exact breaks_nil
  | cons q qs => exact breaks_comma _

theorem compared_cons (q : Comparison) (qs : List Comparison) :
    compared (q :: qs) = q.text ++ continued qs := by
  induction qs generalizing q with
  | nil => simp [compared, continued]
  | cons q' qs ih =>
    rw [continued_cons, ← ih q']
    simp [compared]

/-- Comparisons have no word starts but those of their words and the spaces between them. -/
theorem mem_wordStarts_compared {qs : List Comparison} (h : ∀ q ∈ qs, q.IsSimple) {s : List Char}
    (hs : s ∈ wordStarts false (compared qs)) :
    ∃ w r, s = w ++ r ∧ Breaks r ∧ (w = [] ∨ ∃ q ∈ qs, w ∈ q.words) := by
  induction qs with
  | nil => cases hs
  | cons q qs ih =>
    rw [List.forall_mem_cons] at h
    have hplain : ∀ w ∈ q.words, IsPlain w := fun w hw => (h.1.of_mem_words w hw).1.isPlain
    rw [compared_cons, Comparison.text, wordStarts_append,
      endsInWord_joinWords hplain (List.cons_ne_nil _ _), List.mem_append] at hs
    rcases hs with hs | hs
    . obtain ⟨s', hs', rfl⟩ := List.mem_map.1 hs
      obtain ⟨w, hw, r, hr, rfl⟩ := mem_wordStarts_joinWords hplain hs'
      exact ⟨w, r ++ continued qs, List.append_assoc _ _ _, hr.append (breaks_continued qs),
        .inr ⟨q, List.mem_cons_self .., hw⟩⟩
    . cases qs with
      | nil => cases hs
      | cons q' qs =>
        rw [continued_cons, ← compared_cons, wordStarts, wordStarts, isWord_comma, isWord_space] at hs
        rcases List.mem_cons.1 hs with rfl | hs
        . exact ⟨[], _, rfl, breaks_space _, .inl rfl⟩
        . obtain ⟨w, r, heq, hr, hw⟩ := ih h.2 hs
          refine ⟨w, r, heq, hr, hw.imp_right ?_⟩
          rintro ⟨q'', hq'', hw⟩
          exact ⟨q'', List.mem_cons_of_mem _ hq'', hw⟩

end Starts

section Absent

variable {qs : List Comparison} {s : List Char}

/-- The words that triggers, schedules and the other conditions start with. -/
def leadWords : List (List Char) :=
  reservedWords.drop 3

def leadWord (lead : List Char) : List Char :=
  lead.takeWhile (· != ' ')

structure IsLead (lead : List Char) : Prop where
  followed : leadWord lead ++ [' '] <+: lead
  mem : leadWord lead ∈ leadWords

instance (lead : List Char) : Decidable (IsLead lead) :=
  decidable_of_iff (leadWord lead ++ [' '] <+: lead ∧ leadWord lead ∈ leadWords)
    ⟨fun h => ⟨h.1, h.2⟩, fun h => ⟨h.1, h.2⟩⟩

theorem isUnbroken_of_mem_leadWords {w : List Char} (h : w ∈ leadWords) : IsUnbroken w := by
  have hall : leadWords.all (fun w => w.all fun c => c != ' ' && c != ',') = true := by decide
  exact isUnbroken_iff.2 (List.all_eq_true.1 hall w h)

theorem Comparison.IsSimple.not_mem_leadWords {q : Comparison} (h : q.IsSimple) {w : List Char}
    (hw : w ∈ q.words) : w ∉ leadWords := by
  rcases (h.of_mem_words w hw).2 with rfl | rfl | hreserved
  . decide
  . decide
  . exact fun hlead => hreserved (List.mem_of_mem_drop hlead)

theorem after?_compared (h : ∀ q ∈ qs, q.IsSimple) {lead : List Char} (hlead : IsLead lead)
    (hs : s ∈ wordStarts false (compared qs)) : after? lead s = none := by
  obtain ⟨w, r, rfl, hr, hw⟩ := mem_wordStarts_compared h hs
  have hword : IsUnbroken w ∧ w ∉ leadWords := by
    rcases hw with rfl | ⟨q, hq, hw⟩
    . exact ⟨by simp [IsUnbroken], by decide⟩
    . exact ⟨((h q hq).of_mem_words w hw).1.isUnbroken, (h q hq).not_mem_leadWords hw⟩
  apply after?_eq_none
  intro hstarts
  have heq := eq_of_phrase_followed (isUnbroken_of_mem_leadWords hlead.mem) hword.1 hr
    (hlead.followed.trans hstarts)
  exact hword.2 (heq ▸ hlead.mem)

theorem isLead_of_triggerForms : ∀ form ∈ triggerForms, ∀ lead ∈ form.leads, IsLead lead := by
  decide

theorem triggerSpan?_compared (h : ∀ q ∈ qs, q.IsSimple) : triggerSpan? (compared qs) = none := by
  rw [triggerSpan?, List.findSome?_eq_none_iff]
  intro form hform
  rw [TriggerForm.find?, search_eq_none]
  . rfl
  . intro s hs
    rw [TriggerForm.at?, List.findSome?_eq_none_iff]
    intro lead hlead
    rw [after?_compared h (isLead_of_triggerForms form hform lead hlead) hs]
    rfl

theorem search_countedPhrase?_compared (h : ∀ q ∈ qs, q.IsSimple) :
    search countedPhrase? (compared qs) = none := by
  apply search_eq_none
  intro s hs
  rw [countedPhrase?, after?_compared h (by decide) hs]
  rfl

theorem searchAll_whenCondition?_compared (h : ∀ q ∈ qs, q.IsSimple) :
    searchAll whenCondition? (compared qs) = [] := by
  apply searchAll_eq_nil
  intro s hs
  rw [whenCondition?, after?_compared h (by decide) hs]
  rfl

theorem searchAll_checkedCondition?_compared (h : ∀ q ∈ qs, q.IsSimple) :
    searchAll checkedCondition? (compared qs) = [] := by
  apply searchAll_eq_nil
  intro s hs
  rw [checkedCondition?, List.findSome?_eq_none_iff]
  intro lead hlead
  have hleads : ∀ lead ∈ ["check if ", "check whether ", "checks if ", "checks whether "],
      IsLead lead.toList := by
    decide
  rw [after?_compared h (hleads lead hlead) hs]

end Absent

section Conditions

theorem ifCondition?_eq_none {w r : List Char} (hw : IsUnbroken w) (hne : w ≠ "if".toList)
    (hr : Breaks r) : ifCondition? (w ++ r) = none := by
  have hif : ¬ "if ".toList <+: w ++ r := by
    intro hstarts
    exact hne (eq_of_phrase_followed (q := []) (isUnbroken_iff.2 (by decide)) hw hr hstarts)
  rw [ifCondition?, after?_eq_none hif]
  rfl

variable {q : Comparison}

theorem ifCondition?_premise (h : q.IsSimple) {rest : List Char}
    (hrest : startsInWord rest = false) :
    ifCondition? (joinWords q.premise ++ rest) = some (q.condition, rest) := by
  have hne : q.condition ≠ [] := by
    apply joinWords_ne_nil (by simp)
    intro w hw
    exact (h.of_mem_condition w hw).1.ne_nil
  have hbreaks : Breaks (" then".toList ++ rest) := breaks_space _
  rw [Comparison.joinWords_premise, List.append_assoc, ifCondition?, after?_append,
    Option.bind_some, List.append_assoc]
  apply shortest_append hne
  . intro v hv hne
    apply afterWord?_suffix_joinWords (isUnbroken_iff.2 (by decide)) _ hbreaks hv hne
    intro w hw
    have hword := h.of_mem_condition w hw
    refine ⟨hword.1.isUnbroken, fun hstarts => hword.2 ?_⟩
    rw [hword.1.isPlain.eq_of_startsWithWord hstarts]
    decide
  . exact afterWord?_append hrest

theorem searchAll_go_action (h : q.IsSimple) {rest : List Char} (hrest : Breaks rest) :
    searchAll.go ifCondition? 0 true (' ' :: joinWords q.action ++ rest) =
      searchAll.go ifCondition? 0 true rest := by
  have hplain : ∀ w ∈ q.action, IsPlain w := fun w hw => (h.of_mem_action w hw).1.isPlain
  rw [searchAll_go_append, endsInWord_cons, endsInWord_joinWords hplain h.action_ne_nil]
  intro s hs
  rw [wordStarts, isWord_space] at hs
  obtain ⟨w, hw, r, hr, rfl⟩ := mem_wordStarts_joinWords hplain hs
  have hword := h.of_mem_action w hw
  rw [List.append_assoc]
  apply ifCondition?_eq_none hword.1.isUnbroken _ (hr.append hrest)
  rintro rfl
  exact hword.2 (by decide)

theorem searchAll_go_comma (cs : List Char) :
    searchAll.go ifCondition? 0 true (',' :: ' ' :: cs) = searchAll.go ifCondition? 0 false cs := by
  have hnone : ∀ s ∈ wordStarts true [',', ' '], ifCondition? (s ++ cs) = none := by
    intro s hs
    rw [wordStarts, wordStarts, isWord_comma] at hs
    rw [List.mem_singleton.1 hs]
    exact ifCondition?_eq_none (w := []) (by simp [IsUnbroken]) (by decide) (breaks_space cs)
  have hgo := searchAll_go_append hnone
  rwa [endsInWord_cons, endsInWord_cons, isWord_space] at hgo

theorem searchAll_ifCondition?_compared {qs : List Comparison} (h : ∀ q ∈ qs, q.IsSimple) :
    searchAll ifCondition? (compared qs) = qs.map (·.condition) := by
  rw [searchAll]
  induction qs with
  | nil => rfl
  | cons q qs ih =>
    rw [List.forall_mem_cons] at h
    have hne : joinWords q.premise ≠ [] :=
      joinWords_ne_nil (by simp [Comparison.premise]) fun w hw =>
        (h.1.isPlain_of_mem_premise w hw).ne_nil
    have hrest : startsInWord (' ' :: joinWords q.action ++ continued qs) = false := isWord_space
    have hfound := ifCondition?_premise h.1 hrest
    rw [compared_cons, h.1.text_eq, List.append_assoc, searchAll_go_found hne hfound,
      endsInWord_joinWords h.1.isPlain_of_mem_premise (by simp [Comparison.premise]),
      searchAll_go_action h.1 (breaks_continued qs), List.map_cons]
    cases qs with
    | nil => rfl
    | cons q' qs => rw [continued_cons, searchAll_go_comma, ← compared_cons, ih h.2]

end Conditions

section Actions

variable {q : Comparison}

def comparisonLinks (q : Comparison) : List (Connective × List Char) :=
  [(.comma, ' ' :: joinWords q.opening), (.thenWord, joinWords q.action)]

theorem isInner_of_isSimpleWord {w : List Char} (h : IsSimpleWord w) (hreserved : w ∉ reservedWords) :
    IsInner w := by
  refine ⟨h.isUnbroken, ?_, fun hstarts => ?_⟩
  . rintro rfl
    exact hreserved (by decide)
  . rw [h.isPlain.eq_of_startsWithWord hstarts] at hreserved
    exact hreserved (by decide)

theorem isInner_if : IsInner "if".toList :=
  ⟨isUnbroken_iff.2 (by decide), by decide, by decide⟩

theorem isPart_opening (h : q.IsSimple) : IsPart (joinWords q.opening) := by
  refine ⟨q.opening, rfl, List.forall_mem_cons.2 ⟨isInner_if, fun w hw => ?_⟩⟩
  have hword := h.of_mem_condition w hw
  exact isInner_of_isSimpleWord hword.1 hword.2

theorem isPart_action (h : q.IsSimple) : IsPart (joinWords q.action) := by
  refine ⟨q.action, rfl, fun w hw => ?_⟩
  have hword := h.of_mem_action w hw
  exact isInner_of_isSimpleWord hword.1 hword.2

theorem Comparison.IsSimple.text_eq_opening (h : q.IsSimple) :
    q.text = joinWords q.opening ++ (Connective.thenWord.mark ++ joinWords q.action) := by
  rw [text, words, joinWords_append (by simp [opening]) (List.cons_ne_nil _ _),
    joinWords_cons _ h.action_ne_nil]
  rfl

theorem continued_eq {qs : List Comparison} (h : ∀ q ∈ qs, q.IsSimple) :
    continued qs = (qs.flatMap comparisonLinks).flatMap fun l => l.1.mark ++ l.2 := by
  induction qs with
  | nil => rfl
  | cons q qs ih =>
    rw [List.forall_mem_cons] at h
    have hcomma : Connective.comma.mark = [','] := rfl
    rw [continued_cons, ih h.2, h.1.text_eq_opening]
    simp [comparisonLinks, hcomma]

theorem isPart_of_mem_comparisonLinks (h : q.IsSimple) : ∀ l ∈ comparisonLinks q, IsPart l.2 := by
  have hne : joinWords q.opening ≠ [] := by
    rw [Comparison.opening, joinWords_cons _ (by simp)]
    exact List.cons_ne_nil _ _
  simp only [comparisonLinks, List.forall_mem_cons]
  exact ⟨isInner_nil.cons (isPart_opening h) hne, isPart_action h, by simp⟩

theorem segments_compared {qs : List Comparison} (h : ∀ q ∈ qs, q.IsSimple) (hq : q.IsSimple) :
    segments (compared (q :: qs)) = joinWords q.opening :: joinWords q.action ::
      qs.flatMap fun q => [' ' :: joinWords q.opening, joinWords q.action] := by
  have hlinks : ∀ l ∈ (Connective.thenWord, joinWords q.action) :: qs.flatMap comparisonLinks,
      IsPart l.2 := by
    rw [List.forall_mem_cons]
    refine ⟨isPart_action hq, fun l hl => ?_⟩
    obtain ⟨q', hq', hl⟩ := List.mem_flatMap.1 hl
    exact isPart_of_mem_comparisonLinks (h q' hq') l hl
  have hjoin := segments_join (isPart_opening hq) hlinks
  rw [List.flatMap_cons, ← continued_eq h, ← List.append_assoc, ← hq.text_eq_opening,
    ← compared_cons] at hjoin
  rw [hjoin, List.map_cons, List.map_flatMap]
  rfl

theorem stripWhere_isOuterMark_joinWords {ws : List (List Char)} (h : ∀ w ∈ ws, IsSimpleWord w) :
    stripWhere isOuterMark (joinWords ws) = joinWords ws := by
  have hall : plainChars.all (fun c => !isOuterMark c) = true := by decide
  have hmark : ∀ c ∈ plainChars, isOuterMark c = false := by
    intro c hc
    simpa using List.all_eq_true.1 hall c hc
  apply stripWhere_eq_self
  . intro c hc
    obtain ⟨w, hw, hcw⟩ := head?_joinWords (fun w hw => (h w hw).ne_nil) hc
    exact hmark c ((h w hw).plain c hcw)
  . intro c hc
    obtain ⟨w, hw, hcw⟩ := getLast?_joinWords (fun w hw => (h w hw).ne_nil) hc
    exact hmark c ((h w hw).plain c hcw)

theorem actionSpans_cons (p : List Char) (ps : List (List Char)) :
    actionSpans (p :: ps) =
      ([stripWhere isOuterMark p].filter fun p => !p.isEmpty && !opensCondition p) ++
        actionSpans ps := by
  rw [actionSpans, List.map_cons, ← List.singleton_append, List.filter_append]
  rfl

theorem actionSpans_opening (h : q.IsSimple) {pad : List Char}
    (hpad : ∀ c ∈ pad, isOuterMark c = true) (ps : List (List Char)) :
    actionSpans ((pad ++ joinWords q.opening) :: ps) = actionSpans ps := by
  have hsimple : ∀ w ∈ q.opening, IsSimpleWord w :=
    List.forall_mem_cons.2 ⟨by decide, fun w hw => (h.of_mem_condition w hw).1⟩
  have hopens : opensCondition (joinWords q.opening) = true := by
    have hif : afterWord? "if".toList ("if".toList ++ ' ' :: q.condition) =
        some (' ' :: q.condition) := afterWord?_append isWord_space
    rw [Comparison.opening, joinWords_cons _ (by simp), opensCondition, afterAnyWord?,
      conditionWords, List.findSome?_cons, ← Comparison.condition, hif]
    rfl
  rw [actionSpans_cons, stripWhere_append hpad, stripWhere_isOuterMark_joinWords hsimple]
  simp [hopens]

theorem isUnbroken_of_mem_conditionWords {word : List Char} (h : word ∈ conditionWords) :
    IsUnbroken word := by
  have hall : conditionWords.all (fun w => w.all fun c => c != ' ' && c != ',') = true := by decide
  exact isUnbroken_iff.2 (List.all_eq_true.1 hall word h)

theorem not_startsWithWord_action (h : q.IsSimple) {word : List Char} (hword : word ∈ conditionWords) :
    ¬ StartsWithWord word (joinWords q.action) := by
  have hreserved : ∀ word ∈ conditionWords, word ∈ reservedWords := by decide
  obtain ⟨w, ws, haction⟩ := List.exists_cons_of_ne_nil h.action_ne_nil
  obtain ⟨r, hr, hjoin⟩ := joinWords_cons_breaks w ws
  have hw := h.of_mem_action w (by simp [haction])
  rw [haction, hjoin]
  intro hstarts
  have hstarts := startsWithWord_of_append (isUnbroken_of_mem_conditionWords hword) hr hstarts
  rw [hw.1.isPlain.eq_of_startsWithWord hstarts] at hw
  exact hw.2 (hreserved word hword)

theorem actionSpans_action (h : q.IsSimple) (ps : List (List Char)) :
    actionSpans (joinWords q.action :: ps) = joinWords q.action :: actionSpans ps := by
  have hsimple : ∀ w ∈ q.action, IsSimpleWord w := fun w hw => (h.of_mem_action w hw).1
  have hne : joinWords q.action ≠ [] :=
    joinWords_ne_nil h.action_ne_nil fun w hw => (hsimple w hw).ne_nil
  have hopens : opensCondition (joinWords q.action) = false := by
    rw [opensCondition, afterAnyWord?_eq_none fun _ => not_startsWithWord_action h]
    rfl
  rw [actionSpans_cons, stripWhere_isOuterMark_joinWords hsimple]
  simp [hopens, hne]

theorem actionSpans_parts {qs : List Comparison} (h : ∀ q ∈ qs, q.IsSimple) :
    actionSpans (qs.flatMap fun q => [' ' :: joinWords q.opening, joinWords q.action]) =
      qs.map fun q => joinWords q.action := by
  induction qs with
  | nil => rfl
  | cons q qs ih =>
    rw [List.forall_mem_cons] at h
    have hpad : ∀ c ∈ [' '], isOuterMark c = true := List.forall_mem_singleton.mpr (by decide)
    have hopening := actionSpans_opening h.1 hpad
    rw [List.flatMap_cons, List.cons_append, List.singleton_append]
    rw [List.singleton_append] at hopening
    rw [hopening, actionSpans_action h.1, ih h.2, List.map_cons]

theorem actionSpans_compared {qs : List Comparison} (h : ∀ q ∈ qs, q.IsSimple) :
    actionSpans (segments (compared qs)) = qs.map fun q => joinWords q.action := by
  cases qs with
  | nil => rfl
  | cons q qs =>
    rw [List.forall_mem_cons] at h
    have hopening := actionSpans_opening h.1 (List.forall_mem_nil _)
    rw [List.nil_append] at hopening
    rw [segments_compared h.2 h.1, hopening, actionSpans_action h.1, actionSpans_parts h.2,
      List.map_cons]

end Actions

section Extracted

variable {qs : List Comparison} {description : String}

def extractionOf (qs : List Comparison) (schedule : Option Schedule) : Extraction where
  trigger := none
  actions := qs.map fun q => Clause.of .action (joinWords q.action)
  conditions := qs.map fun q => Clause.of .condition q.condition
  schedule
  isBlank := false

theorem isBlank_of_compared (hne : qs ≠ []) (h : ∀ q ∈ qs, q.IsSimple)
    (htext : normal description.toList = compared qs) : isBlank description = false := by
  have hmem : 'f' ∈ normal description.toList := by
    obtain ⟨q, qs, rfl⟩ := List.exists_cons_of_ne_nil hne
    rw [htext, compared_cons, (h q (List.mem_cons_self ..)).text_eq, Comparison.joinWords_premise]
    exact List.mem_cons_of_mem _ (List.mem_cons_self ..)
  exact isBlank_of_mem_normal hmem (by decide +kernel)

theorem strip_condition {q : Comparison} (h : q.IsSimple) : strip q.condition = q.condition :=
  strip_joinWords fun w hw => (h.of_mem_condition w hw).1.isBlankFree

theorem conditionSpans_compared (h : ∀ q ∈ qs, q.IsSimple) :
    conditionSpans (compared qs) = qs.map (·.condition) := by
  rw [conditionSpans, List.flatMap_cons, List.flatMap_cons, List.flatMap_cons, List.flatMap_nil,
    searchAll_ifCondition?_compared h, searchAll_whenCondition?_compared h,
    searchAll_checkedCondition?_compared h, List.append_nil, List.append_nil, List.append_nil,
    List.map_map]
  exact List.map_congr_left fun q hq => strip_condition (h q hq)

theorem schedule_compared (h : ∀ q ∈ qs, q.IsSimple) :
    scheduleOf (compared qs) = .ok (plainSchedule? (compared qs)) := by
  rw [scheduleOf, search_countedPhrase?_compared h]

theorem extract_compared (hne : qs ≠ []) (h : ∀ q ∈ qs, q.IsSimple)
    (htext : normal description.toList = compared qs) :
    ∃ schedule, extract description = .ok (extractionOf qs schedule) := by
  have hnormal : normal (normalize description).toList = compared qs := by
    rw [normal_normalize, htext]
  have htrigger : trigger? (normalize description) = none := by
    rw [trigger?, hnormal, triggerSpan?_compared h]
    rfl
  have hactions : actions (normalize description) false =
      qs.map fun q => Clause.of .action (joinWords q.action) := by
    rw [actions, hnormal, if_neg (by simp), actionSpans_compared h, List.map_map]
    rfl
  have hconditions : conditions (normalize description) =
      qs.map fun q => Clause.of .condition q.condition := by
    rw [conditions, hnormal, conditionSpans_compared h, List.map_map]
    rfl
  have hschedule : schedule (normalize description) = .ok (plainSchedule? (compared qs)) := by
    rw [schedule, hnormal, schedule_compared h]
  refine ⟨plainSchedule? (compared qs), ?_⟩
  rw [extract, if_neg (by simp [isBlank_of_compared hne h htext])]
  dsimp only
  rw [htrigger, Option.isSome_none, hactions, hconditions, hschedule]
  rfl

end Extracted

end Automation.Description
