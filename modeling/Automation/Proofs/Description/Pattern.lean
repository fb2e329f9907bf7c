import Automation.Proofs.Description.Normal
import Automation.Proofs.Description.Phrase

/-!
This module contains patterns of clauses: what announces a clause and what ends it. A pattern occurs
in a text wherever one of its leads stands at a word start and one of its stops comes later, which
says nothing of how a text is searched.
-/

namespace Automation.Description

open Text

inductive Stop where
  | comma
  | word (w : String)
  | finish
  deriving Repr, DecidableEq

namespace Stop

def Closes : Stop → (close after : List Char) → Prop
  | comma, close, _ => close = [',']
  | word w, close, after =>
    ∃ blanks, IsBlankRun blanks ∧ close = blanks ++ w.toList ∧ startsInWord after = false
  | finish, close, after => close = [] ∧ after = []

end Stop

def IsSpelt : List (List String) → List Char → Prop
  | [], lead => lead = []
  | words :: way, lead => ∃ word ∈ words, ∃ blanks more,
    IsBlankRun blanks ∧ IsSpelt way more ∧ lead = word.toList ++ (blanks ++ more)

def spellings : List (List String) → List (List Char)
  | [] => [[]]
  | words :: way => words.flatMap fun word =>
    (spellings way).map fun more => word.toList ++ ' ' :: more

/-- The ways in which a clause is announced; where one continues another, it stands first. -/
structure Leads where
  ways : List (List (List String))
  getLast?_lead : ∀ lead ∈ ways.flatMap spellings, lead.getLast? = some ' ' := by decide
  longer_first : (ways.flatMap spellings).Pairwise (¬ · <+: ·) := by decide

def Leads.when : Leads where
  ways := [[["when"]]]

structure Pattern where
  leads : Leads
  stops : List Stop

structure Occurrence where
  before : List Char
  lead : List Char
  span : List Char
  close : List Char
  after : List Char
  deriving Repr, DecidableEq

namespace Occurrence

def rest (o : Occurrence) : List Char :=
  o.lead ++ (o.span ++ (o.close ++ o.after))

def upTo (o : Occurrence) : List Char :=
  o.before ++ (o.lead ++ (o.span ++ o.close))

def BeginsWithin (o p : Occurrence) : Prop :=
  p.before <+: o.before ∧ ¬ p.upTo <+: o.before

end Occurrence

namespace Pattern

def Closes (pattern : Pattern) (close after : List Char) : Prop :=
  ∃ stop ∈ pattern.stops, stop.Closes close after

structure Occurs (pattern : Pattern) (cs : List Char) (o : Occurrence) : Prop where
  text : o.before ++ o.rest = cs
  wordStart : ∀ c ∈ o.before.getLast?, isWord c = false
  lead : ∃ way ∈ pattern.leads.ways, IsSpelt way o.lead
  span_ne_nil : o.span ≠ []
  close : pattern.Closes o.close o.after

/-- Whether no occurrence at the same place has a longer lead, or this lead and a shorter span. -/
structure IsChosen (pattern : Pattern) (cs : List Char) (o : Occurrence) : Prop where
  occurs : pattern.Occurs cs o
  longest : ∀ p, pattern.Occurs cs p → p.before = o.before → p.lead <+: o.lead
  shortest : ∀ p, pattern.Occurs cs p → p.before = o.before → p.lead = o.lead → o.span <+: p.span

structure IsFirst (pattern : Pattern) (cs : List Char) (o : Occurrence) : Prop
    extends pattern.IsChosen cs o where
  leftmost : ∀ p, pattern.Occurs cs p → o.before <+: p.before

structure AreAll (pattern : Pattern) (cs : List Char) (os : List Occurrence) : Prop where
  chosen : ∀ o ∈ os, pattern.IsChosen cs o
  apart : os.Pairwise fun o p => o.upTo <+: p.before
  covered : ∀ o, pattern.Occurs cs o → ∃ p ∈ os, o.BeginsWithin p

end Pattern

section Spelt

theorem isSpelt_of_mem_spellings {way : List (List String)} {lead : List Char}
    (h : lead ∈ spellings way) : IsSpelt way lead := by
  induction way generalizing lead with
  | nil => exact List.mem_singleton.1 h
  | cons words way ih =>
    simp only [spellings, List.mem_flatMap, List.mem_map] at h
    obtain ⟨word, hword, more, hmore, rfl⟩ := h
    exact ⟨word, hword, [' '], more, isBlankRun_space, ih hmore, rfl⟩

theorem mem_spellings_of_isSpelt {way : List (List String)} {lead : List Char}
    (h : IsSpelt way lead) (hspaced : IsSpaced lead) : lead ∈ spellings way := by
  induction way generalizing lead with
  | nil => exact List.mem_singleton.2 h
  | cons words way ih =>
    obtain ⟨word, hword, blanks, more, hblanks, hmore, rfl⟩ := h
    have hwithin := hspaced.within (List.suffix_append word.toList _).isInfix
    obtain rfl := eq_space_of_isBlankRun hspaced hblanks
    simp only [spellings, List.mem_flatMap, List.mem_map]
    exact ⟨word, hword, more, ih hmore (hwithin.within (List.suffix_append _ _).isInfix), rfl⟩

end Spelt

section Reading

def Stop.read? : Stop → List Char → Option (List Char)
  | comma, cs => after? [','] cs
  | word w, cs => afterWord? (' ' :: w.toList) cs
  | finish, cs => if cs.isEmpty then some [] else none

theorem Stop.exists_closes {stop : Stop} {cs after : List Char} (h : stop.read? cs = some after) :
    ∃ close, close ++ after = cs ∧ stop.Closes close after := by
  cases stop with
  | comma => exact ⟨[','], after?_eq_some_iff.1 h, rfl⟩
  | word w =>
    obtain ⟨heq, hafter⟩ := afterWord?_eq_some_iff.1 h
    exact ⟨' ' :: w.toList, heq, [' '], isBlankRun_space, rfl, hafter⟩
  | finish =>
    rw [read?] at h
    split at h
    . rename_i hnil
      cases h
      exact ⟨[], (List.isEmpty_iff.1 hnil).symm, rfl, rfl⟩
    . cases h

theorem Stop.Closes.read?_eq {stop : Stop} {close after : List Char} (h : stop.Closes close after)
    (hspaced : IsSpaced close) : stop.read? (close ++ after) = some after := by
  cases stop with
  | comma =>
    obtain rfl : close = [','] := h
    exact after?_append _ _
  | word w =>
    obtain ⟨blanks, hblanks, rfl, hafter⟩ := h
    obtain rfl := eq_space_of_isBlankRun (u := []) hspaced hblanks
    exact afterWord?_eq_some_iff.2 ⟨rfl, hafter⟩
  | finish =>
    obtain ⟨rfl, rfl⟩ := h
    rfl

namespace Pattern

variable {pattern : Pattern} {cs : List Char}

def leadTexts (pattern : Pattern) : List (List Char) :=
  pattern.leads.ways.flatMap spellings

def stop? (pattern : Pattern) (cs : List Char) : Option (List Char) :=
  pattern.stops.findSome? (·.read? cs)

def read? (pattern : Pattern) (cs : List Char) : Option (List Char × List Char) :=
  pattern.leadTexts.findSome? fun lead => (after? lead cs).bind (Description.shortest pattern.stop?)

theorem exists_closes {after : List Char} (h : pattern.stop? cs = some after) :
    ∃ close, close ++ after = cs ∧ pattern.Closes close after := by
  obtain ⟨stop, hstop, hread⟩ := List.exists_of_findSome?_eq_some h
  obtain ⟨close, heq, hclose⟩ := stop.exists_closes hread
  exact ⟨close, heq, stop, hstop, hclose⟩

theorem stop?_ne_none {close after : List Char} (h : pattern.Closes close after)
    (hspaced : IsSpaced close) : pattern.stop? (close ++ after) ≠ none := by
  obtain ⟨stop, hstop, hclose⟩ := h
  rw [stop?, Ne, List.findSome?_eq_none_iff]
  intro hnone
  have hread := hnone stop hstop
  rw [hclose.read?_eq hspaced] at hread
  cases hread

theorem Occurs.upTo_append {o : Occurrence} (ho : pattern.Occurs cs o) :
    o.upTo ++ o.after = cs := by
  rw [← ho.text, Occurrence.upTo, Occurrence.rest]
  simp only [List.append_assoc]

theorem Occurs.isSpaced_rest {o : Occurrence} (ho : pattern.Occurs cs o) (hspaced : IsSpaced cs) :
    IsSpaced o.rest := by
  rw [← ho.text] at hspaced
  exact hspaced.within (List.suffix_append _ _).isInfix

theorem Occurs.mem_leadTexts {o : Occurrence} (ho : pattern.Occurs cs o) (hspaced : IsSpaced cs) :
    o.lead ∈ pattern.leadTexts := by
  obtain ⟨way, hway, hspelt⟩ := ho.lead
  have hlead := (ho.isSpaced_rest hspaced).within (List.prefix_append _ _).isInfix
  exact List.mem_flatMap_of_mem hway (mem_spellings_of_isSpelt hspelt hlead)

theorem Occurs.stop?_ne_none {o : Occurrence} (ho : pattern.Occurs cs o) (hspaced : IsSpaced cs) :
    pattern.stop? (o.close ++ o.after) ≠ none := by
  apply Pattern.stop?_ne_none ho.close
  apply (ho.isSpaced_rest hspaced).within
  exact (List.prefix_append _ _).isInfix.trans
    ((List.suffix_append _ _).isInfix.trans (List.suffix_append _ _).isInfix)

/-- Whether a function reads the chosen occurrences of a pattern where they begin. -/
structure IsReadBy (pattern : Pattern) (cs : List Char) (f : List Char → Option β)
    (view : Occurrence → β) : Prop where
  found : ∀ {before rest b}, before ++ rest = cs → endsInWord false before = false →
    f rest = some b → ∃ o, pattern.IsChosen cs o ∧ o.before = before ∧ view o = b
  missed : ∀ {before rest}, before ++ rest = cs → f rest = none →
    ∀ o, pattern.Occurs cs o → o.before ≠ before

theorem isReadBy_read? (pattern : Pattern) (hspaced : IsSpaced cs) :
    pattern.IsReadBy cs pattern.read? fun o => (o.span, o.after) := by
  constructor
  . rintro before rest ⟨span, after⟩ htext hstart hread
    obtain ⟨longer, lead, shorter, hleads, hfound, hlonger⟩ := List.findSome?_eq_some_iff.1 hread
    obtain ⟨rest, hlead, hshortest⟩ := Option.bind_eq_some_iff.1 hfound
    obtain rfl := after?_eq_some_iff.1 hlead
    obtain ⟨rest, rfl, hspan, hstop, hleast⟩ := exists_of_shortest hshortest
    obtain ⟨close, rfl, hclose⟩ := exists_closes hstop
    have hmem : lead ∈ pattern.leadTexts := by simp [hleads]
    obtain ⟨way, hway, hspelling⟩ := List.mem_flatMap.1 hmem
    refine ⟨⟨before, lead, span, close, after⟩, ⟨?_, ?_, ?_⟩, rfl, rfl⟩
    . exact ⟨htext, endsInWord_eq_false_iff.1 hstart,
        ⟨way, hway, isSpelt_of_mem_spellings hspelling⟩, hspan, hclose⟩
    . intro p hp heq
      dsimp only at heq ⊢
      have hrest : p.rest = lead ++ (span ++ (close ++ after)) := by
        rw [← List.append_cancel_left_eq before, htext, ← heq, hp.text]
      have hplead : p.lead <+: lead ++ (span ++ (close ++ after)) := ⟨_, hrest⟩
      have hmem' := hp.mem_leadTexts hspaced
      rw [hleads, List.mem_append, List.mem_cons] at hmem'
      rcases hmem' with hlong | rfl | hshort
      . -- A longer lead that occurs would have been read.
        have hnone := hlonger _ hlong
        rw [after?_eq_some_iff.2 hrest, Option.bind_some, shortest_eq_none_iff] at hnone
        exact absurd (hnone _ _ rfl hp.span_ne_nil) (hp.stop?_ne_none hspaced)
      . exact List.prefix_refl _
      . have hfirst := pattern.leads.longer_first
        rw [← leadTexts, hleads, List.pairwise_append, List.pairwise_cons] at hfirst
        rcases List.prefix_or_prefix_of_prefix hplead (List.prefix_append lead _) with h | h
        . exact h
        . exact absurd h (hfirst.2.1.1 _ hshort)
    . intro p hp heq hplead
      dsimp only at heq hplead ⊢
      have hrest : p.rest = lead ++ (span ++ (close ++ after)) := by
        rw [← List.append_cancel_left_eq before, htext, ← heq, hp.text]
      rw [Occurrence.rest, hplead, List.append_cancel_left_eq] at hrest
      exact hleast _ _ hrest hp.span_ne_nil (hp.stop?_ne_none hspaced)
  . rintro before rest htext hread o ho rfl
    rw [← ho.text, List.append_cancel_left_eq] at htext
    rw [read?, List.findSome?_eq_none_iff] at hread
    have hnone := hread _ (ho.mem_leadTexts hspaced)
    rw [after?_eq_some_iff.2 htext.symm, Option.bind_some, shortest_eq_none_iff] at hnone
    exact absurd (hnone _ _ rfl ho.span_ne_nil) (ho.stop?_ne_none hspaced)

theorem IsReadBy.map {f : List Char → Option β} {view : Occurrence → β}
    (h : pattern.IsReadBy cs f view) (g : β → γ) :
    pattern.IsReadBy cs (fun rest => (f rest).map g) fun o => g (view o) := by
  constructor
  . intro before rest c htext hstart hread
    obtain ⟨b, hb, rfl⟩ := Option.map_eq_some_iff.1 hread
    obtain ⟨o, ho, hbefore, rfl⟩ := h.found htext hstart hb
    exact ⟨o, ho, hbefore, rfl⟩
  . intro before rest htext hread
    exact h.missed htext (Option.map_eq_none_iff.1 hread)

end Pattern

end Reading

section Span

namespace Pattern

variable {pattern : Pattern} {cs : List Char} {o : Occurrence}

theorem IsChosen.not_closes (ho : pattern.IsChosen cs o) {u v close after : List Char}
    (hspan : o.span = u ++ v) (hu : u ≠ []) (hv : v ≠ [])
    (heq : v ++ (o.close ++ o.after) = close ++ after) : ¬ pattern.Closes close after := by
  intro hclose
  have hoccurs : pattern.Occurs cs ⟨o.before, o.lead, u, close, after⟩ := by
    refine ⟨?_, ho.occurs.wordStart, ho.occurs.lead, hu, hclose⟩
    rw [← ho.occurs.text, Occurrence.rest, Occurrence.rest, hspan, List.append_assoc, heq]
  have hlength := (ho.shortest _ hoccurs rfl rfl).length_le
  have hpos := List.length_pos_iff.2 hv
  rw [hspan, List.length_append] at hlength
  dsimp only at hlength
  omega

theorem Occurs.head?_span (ho : pattern.Occurs cs o) (hspaced : IsSpaced cs) :
    ∀ c ∈ o.span.head?, Text.isBlank c = false := by
  intro c hc
  obtain ⟨span, hspan⟩ := List.head?_eq_some_iff.1 hc
  obtain ⟨lead, hlead⟩ :=
    List.getLast?_eq_some_iff.1 (pattern.leads.getLast?_lead _ (ho.mem_leadTexts hspaced))
  have hrest := ho.isSpaced_rest hspaced
  rw [Occurrence.rest, hlead, hspan] at hrest
  rw [← Bool.not_eq_true]
  intro hblank
  -- The blank would stand right after the one that the lead ends with.
  obtain rfl := hrest.eq_space c (by simp) hblank
  exact hrest.alone ⟨lead, span ++ (o.close ++ o.after), by simp⟩

theorem Closes.startsInWord_eq {close after : List Char} (h : pattern.Closes close after) :
    startsInWord (close ++ after) = false := by
  obtain ⟨stop, -, hclose⟩ := h
  cases stop with
  | comma =>
    obtain rfl : close = [','] := hclose
    exact isWord_comma
  | word w =>
    obtain ⟨blanks, hblanks, rfl, -⟩ := hclose
    obtain ⟨b, blanks, rfl⟩ := List.exists_cons_of_ne_nil hblanks.ne_nil
    exact isWord_of_isBlank (hblanks.isBlank b (List.mem_cons_self ..))
  | finish =>
    obtain ⟨rfl, rfl⟩ := hclose
    rfl

end Pattern

end Span

end Automation.Description
