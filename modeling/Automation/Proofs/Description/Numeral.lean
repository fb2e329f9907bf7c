import Automation.Description.Extraction
import Automation.Proofs.Description.Phrase
import Automation.Proofs.Text.Case

/-!
This module contains the one number that is read out of a description: that of the first phrase that
counts units of time, such as "every 15 minutes". Whatever else a description says, nothing but too
many digits there keeps it from being read.
-/

namespace Automation.Description

/-- The digits of the first phrase that counts units of time. -/
def countedDigits? (description : String) : Option (List Char) :=
  -- The schedule takes the normal form of a text that is in normal form already.
  (search countedPhrase? (normal (normalize description).toList)).map (·.1)

structure IsOverlong (description : String) (digits : List Char) : Prop where
  isBlank : isBlank description = false
  counted : countedDigits? description = some digits
  length : Text.maxDigits < digits.length

theorem scheduleOf_cases {P : Except Text.NumeralFault (Option Schedule) → Prop} (cs : List Char)
    (overlong : ∀ digits, (search countedPhrase? cs).map (·.1) = some digits →
      Text.maxDigits < digits.length → P (.error (.tooLong digits.length)))
    (readable : ∀ s, (∀ digits, (search countedPhrase? cs).map (·.1) = some digits →
      ¬ Text.maxDigits < digits.length) → P (.ok s)) :
    P (scheduleOf cs) := by
  unfold scheduleOf
  split
  . rename_i digits seconds hsearch
    rw [hsearch] at overlong readable
    split
    . rename_i hlength
      exact overlong digits rfl hlength
    . rename_i hlength
      have hreadable : ∀ digits', some digits = some digits' →
          ¬ Text.maxDigits < digits'.length := by
        rintro _ ⟨⟩
        exact hlength
      dsimp only
      split
      . exact readable _ hreadable
      . exact readable _ hreadable
  . rename_i hsearch
    rw [hsearch] at readable
    exact readable _ (by simp)

theorem extract_cases {P : Except Text.NumeralFault Extraction → Prop} (description : String)
    (blank : isBlank description = true → P (.ok .blank))
    (overlong : ∀ digits, IsOverlong description digits → P (.error (.tooLong digits.length)))
    (readable : ∀ e, isBlank description = false → (∀ digits, ¬ IsOverlong description digits) →
      e.isBlank = false → P (.ok e)) :
    P (extract description) := by
  unfold extract
  split
  . rename_i hblank
    exact blank hblank
  . rename_i hblank
    have hspoken : isBlank description = false := by simpa using hblank
    have hschedule : ∀ f : Option Schedule → Extraction, (∀ s, (f s).isBlank = false) →
        P (schedule (normalize description) >>= fun s => .ok (f s)) := by
      intro f hf
      apply scheduleOf_cases (P := fun r => P (r >>= fun s => .ok (f s)))
      . intro digits hdigits hlength
        exact overlong digits ⟨hspoken, hdigits, hlength⟩
      . intro s hshort
        apply readable _ hspoken _ (hf s)
        intro digits h
        exact hshort digits h.counted h.length
    exact hschedule _ fun _ => rfl

theorem extract_of_isOverlong {description : String} {digits : List Char}
    (h : IsOverlong description digits) :
    extract description = .error (.tooLong digits.length) := by
  apply extract_cases (P := fun r => r = .error (.tooLong digits.length))
  . intro hblank
    rw [h.isBlank] at hblank
    cases hblank
  . intro digits' h'
    rw [Option.some.inj (h.counted.symm.trans h'.counted)]
  . intro e _ hreadable _
    exact absurd h (hreadable digits)

theorem extract_of_readable {description : String} (h : ∀ digits, ¬ IsOverlong description digits) :
    ∃ e, extract description = .ok e ∧ isBlank description = e.isBlank := by
  apply extract_cases (P := fun r => ∃ e, r = .ok e ∧ isBlank description = e.isBlank)
  . intro hblank
    exact ⟨.blank, rfl, hblank⟩
  . intro digits hoverlong
    exact absurd hoverlong (h digits)
  . intro e hspoken _ he
    exact ⟨e, rfl, hspoken.trans he.symm⟩

section Counted

variable {digits : List Char}

def decimalDigits : List Char :=
  "0123456789".toList

theorem isDigit_of_mem {c : Char} (h : c ∈ decimalDigits) : Text.isDigit c = true := by
  -- A quantifier over the members might be decided for all characters there are.
  have hall : decimalDigits.all Text.isDigit = true := by decide +kernel
  exact List.all_eq_true.1 hall c h

def plainChars : List Char :=
  "abcdefghijklmnopqrstuvwxyz".toList ++ decimalDigits

theorem isBlank_of_mem {c : Char} (h : c ∈ plainChars) : Text.isBlank c = false := by
  have hall : plainChars.all (fun c => !Text.isBlank c) = true := by decide +kernel
  simpa using List.all_eq_true.1 hall c h

theorem lowerWithin_of_mem {c : Char} (h : c ∈ ' ' :: plainChars) (before after : List Char) :
    Text.lowerWithin before c after = [c] := by
  have hall : (' ' :: plainChars).all
      (fun c => c != 'Σ' && c != 'İ' && Text.lowerChar c == c) = true := by
    decide +kernel
  have hplain := List.all_eq_true.1 hall c h
  rw [Bool.and_eq_true, Bool.and_eq_true, bne_iff_ne, bne_iff_ne, beq_iff_eq] at hplain
  obtain ⟨⟨hsigma, hdotted⟩, hlower⟩ := hplain
  simp [Text.lowerWithin, hsigma, hdotted, hlower]

theorem normal_joinWords {ws : List (List Char)}
    (h : ∀ w ∈ ws, w ≠ [] ∧ ∀ c ∈ w, c ∈ plainChars) :
    normal (Text.joinWords ws) = Text.joinWords ws := by
  have hwords : Text.words (Text.joinWords ws) = ws :=
    Text.words_joinWords fun w hw => ⟨(h w hw).1, fun c hc => isBlank_of_mem ((h w hw).2 c hc)⟩
  unfold normal
  rw [hwords]
  apply Text.lower_eq_self
  intro c hc
  refine lowerWithin_of_mem ?_
  rcases Text.mem_joinWords hc with rfl | ⟨w, hw, hcw⟩
  . exact List.mem_cons_self ..
  . exact List.mem_cons_of_mem _ ((h w hw).2 c hcw)

def everyMinutes (digits : List Char) : List Char :=
  Text.joinWords ["every".toList, digits, "minutes".toList]

theorem countedPhrase?_every (hne : digits ≠ []) (h : ∀ c ∈ digits, Text.isDigit c = true)
    (cs : List Char) :
    countedPhrase? ("every ".toList ++ (digits ++ ' ' :: cs)) =
      timeUnits.findSome? fun (unit, seconds) =>
        (afterAnyWord? [(unit ++ "s").toList, unit.toList] cs).map fun _ => (digits, seconds) := by
  have hspace : ¬ Text.isDigit ' ' = true := by decide
  have htake : (digits ++ ' ' :: cs).takeWhile Text.isDigit = digits := by
    rw [List.takeWhile_append_of_pos h, List.takeWhile_cons_of_neg hspace, List.append_nil]
  have hdrop : (digits ++ ' ' :: cs).dropWhile Text.isDigit = [' '] ++ cs := by
    rw [List.dropWhile_append_of_pos h, List.dropWhile_cons_of_neg hspace]
    rfl
  rw [countedPhrase?, after?_append, Option.bind_some]
  dsimp only
  rw [htake, hdrop, if_neg (by simpa using hne), after?_append, Option.bind_some]

theorem countedPhrase?_everyMinutes (hne : digits ≠ []) (h : ∀ c ∈ digits, c ∈ decimalDigits) :
    countedPhrase? (everyMinutes digits) = some (digits, 60) := by
  have heq : everyMinutes digits = "every ".toList ++ (digits ++ ' ' :: "minutes".toList) := by
    simp [everyMinutes, Text.joinWords]
  have hunit : afterAnyWord? [("minute" ++ "s").toList, "minute".toList] "minutes".toList =
      some [] := by
    decide
  rw [heq, countedPhrase?_every hne fun c hc => isDigit_of_mem (h c hc), timeUnits,
    List.findSome?_cons]
  dsimp only
  rw [hunit]
  rfl

theorem normal_everyMinutes (hne : digits ≠ []) (h : ∀ c ∈ digits, c ∈ decimalDigits) :
    normal (everyMinutes digits) = everyMinutes digits := by
  apply normal_joinWords
  have hevery : "every".toList ⊆ plainChars := by decide
  have hminutes : "minutes".toList ⊆ plainChars := by decide
  simp only [List.forall_mem_cons]
  exact ⟨⟨by decide, fun _ hc => hevery hc⟩, ⟨hne, fun c hc => List.mem_append_right _ (h c hc)⟩,
    ⟨by decide, fun _ hc => hminutes hc⟩, by simp⟩

theorem isOverlong_everyMinutes (h : ∀ c ∈ digits, c ∈ decimalDigits)
    (hlength : Text.maxDigits < digits.length) :
    IsOverlong (String.ofList (everyMinutes digits)) digits := by
  have hne : digits ≠ [] := List.ne_nil_of_length_pos (Nat.zero_lt_of_lt hlength)
  have hnormal := normal_everyMinutes hne h
  obtain ⟨cs, hcs⟩ : ∃ cs, everyMinutes digits = 'e' :: cs := ⟨_, rfl⟩
  refine ⟨?_, ?_, hlength⟩
  . have hword : Text.isWord 'e' = true := by decide
    simp [isBlank, hcs, hword]
  . have hphrase := countedPhrase?_everyMinutes hne h
    rw [hcs] at hnormal hphrase ⊢
    simp [countedDigits?, normalize, hnormal, search_of_head (List.cons_ne_nil _ _) hphrase]

end Counted

end Automation.Description
