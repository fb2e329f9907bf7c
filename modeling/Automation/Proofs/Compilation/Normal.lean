import Automation.Proofs.Compilation.Shape
import Automation.Proofs.Description.Normal
import Automation.Proofs.Description.Numeral

/-!
This module contains what a compilation takes from its description: the normal form, from which the
whole graph comes, and the text itself for nothing but the title and the description of the
blueprint.
-/

namespace Automation

namespace Description

theorem extract_ne_malformed (description : String) : extract description ≠ .error .malformed := by
  apply extract_cases (P := fun r => r ≠ .error .malformed)
  . intro _ h
    cases h
  . intro digits _ h
    cases h
  . intro e _ _ _ h
    cases h

end Description

namespace Compilation

def retitled (t : Tuning) (description : String) (name : Json) (c : Compilation) : Compilation :=
  { c with blueprint := { c.blueprint with
    name := blueprintName t description name
    description := .string (blueprintDescription t description) } }

/--
Descriptions of one normal form compile to one graph, or they fail alike. Nothing but the title and
the description of the blueprint tells them apart, and these are those of the text itself.
-/
theorem compileText_retitled {description other : String}
    (h : Description.normalize description = Description.normalize other) (t : Tuning)
    (catalog : Catalog) (sleepSeconds name : Json) :
    (compileText t catalog sleepSeconds other name).result =
      (compileText t catalog sleepSeconds description name).result.map (retitled t other name) := by
  have hsame : Description.extract other = Description.extract description := by
    rw [← Description.extract_normalize other, ← h, Description.extract_normalize]
  cases hextract : Description.extract description with
  | error f =>
    cases f with
    | malformed => exact absurd hextract (Description.extract_ne_malformed description)
    | tooLong digits => simp [compileText, hsame, hextract, Except.map]
  | ok e =>
    rw [hextract] at hsame
    cases hblank : e.isBlank with
    | true =>
      have he := eq_blank_of_extract hextract hblank
      rw [he] at hextract hsame
      rw [compileText_blank hextract, compileText_blank hsame]
      rfl
    | false =>
      rw [compileText_eq hextract hblank, compileText_eq hsame hblank]
      rfl

def mixedText : String := "When\tMAİL ΣΑΣ comes,  call"

def plainText : String := "when mai\u0307l σας comes, call"

theorem compileText_retitled_of_mixedText :
    Description.normalize mixedText = Description.normalize plainText ∧
    (compileText {} ⟨[], "1"⟩ 5 plainText .null).result =
      (compileText {} ⟨[], "1"⟩ 5 mixedText .null).result.map (retitled {} plainText .null) := by
  have h : Description.normalize mixedText = Description.normalize plainText := by
    decide +kernel
  exact ⟨h, compileText_retitled h {} ⟨[], "1"⟩ 5 .null⟩

end Compilation

end Automation
