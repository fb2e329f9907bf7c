import Automation.Proofs.Compilation.Shape
import Automation.Proofs.Description.Numeral

/-!
This module contains which outcomes a compilation has: a blueprint without errors where the
description has a word character, a rejection where it has none, and a fault where a number of units
of time has too many digits to be read.
-/

namespace Automation.Compilation

/-- A description that says something comes to a valid blueprint; any other one is rejected. -/
def IsAnswered (description : String) : Except Failure Compilation → Prop
  | .ok c => Description.isBlank description = false ∧ c.blueprint.errors = .ok []
  | .error f => Description.isBlank description = true ∧
    f = .invalid ["Blueprint must have at least one module"]

section

variable {description : String} (t : Tuning) (catalog : Catalog) (sleepSeconds name : Json)

theorem compileText_of_isOverlong {digits : List Char}
    (h : Description.IsOverlong description digits) :
    (compileText t catalog sleepSeconds description name).result =
      .error (.fault (.longNumeral digits.length)) := by
  simp [compileText, Description.extract_of_isOverlong h]

theorem isAnswered_of_readable (h : ∀ digits, ¬ Description.IsOverlong description digits) :
    IsAnswered description (compileText t catalog sleepSeconds description name).result := by
  obtain ⟨e, hextract, hblank⟩ := Description.extract_of_readable h
  cases hspoken : e.isBlank with
  | true =>
    rw [eq_blank_of_extract hextract hspoken] at hextract
    rw [compileText_blank hextract]
    exact ⟨hblank.trans hspoken, rfl⟩
  | false =>
    rw [compileText_eq hextract hspoken]
    have hresolutions := isEmpty_resolve hspoken catalog sleepSeconds
    exact ⟨hblank.trans hspoken, errors_blueprintOf t catalog description name e hresolutions⟩

end

/-- The descriptions that are not answered are those whose number of units has too many digits. -/
theorem compileText_answers (t : Tuning) (catalog : Catalog) (sleepSeconds name : Json)
    (description : String) :
    (IsAnswered description (compileText t catalog sleepSeconds description name).result ↔
      ∀ digits, ¬ Description.IsOverlong description digits) ∧
    ∀ digits, Description.IsOverlong description digits →
      (compileText t catalog sleepSeconds description name).result =
        .error (.fault (.longNumeral digits.length)) := by
  refine ⟨⟨?_, isAnswered_of_readable t catalog sleepSeconds name⟩,
    fun digits h => compileText_of_isOverlong t catalog sleepSeconds name h⟩
  intro hanswered digits h
  rw [compileText_of_isOverlong t catalog sleepSeconds name h] at hanswered
  cases hanswered.2

def overlongDigits : List Char :=
  List.replicate Text.maxDigits '0' ++ ['5']

theorem length_overlongDigits : overlongDigits.length = Text.maxDigits + 1 := by
  rw [overlongDigits, List.length_append, List.length_replicate, List.length_singleton]

def overlongExample : String :=
  String.ofList (Description.everyMinutes overlongDigits)

theorem isOverlong_overlongExample : Description.IsOverlong overlongExample overlongDigits := by
  apply Description.isOverlong_everyMinutes
  . intro c hc
    rcases List.mem_append.1 hc with hc | hc
    . rw [List.eq_of_mem_replicate hc]
      decide
    . rw [List.mem_singleton.1 hc]
      decide
  . rw [length_overlongDigits]
    exact Nat.lt_succ_self _

/-- Zeros before a number count as its digits, so that even a five can be too long. -/
theorem not_isAnswered_overlongExample :
    (compileText {} ⟨[], "1"⟩ (.int 5) overlongExample .null).result =
      .error (.fault (.longNumeral 4301)) ∧
    ¬ IsAnswered overlongExample
      (compileText {} ⟨[], "1"⟩ (.int 5) overlongExample .null).result := by
  have hresult := compileText_of_isOverlong {} ⟨[], "1"⟩ (.int 5) .null isOverlong_overlongExample
  rw [length_overlongDigits] at hresult
  refine ⟨hresult, ?_⟩
  rw [hresult]
  rintro ⟨_, hfault⟩
  cases hfault

end Automation.Compilation
