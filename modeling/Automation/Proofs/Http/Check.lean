import Automation.Proofs.Blueprint.Malformed
import Automation.Proofs.Blueprint.NormalForm
import Automation.Proofs.Console.Tame
import Automation.Proofs.Http.Step

/-!
This module contains the check of documents over the web: of every object it is told whether it is
the document of a valid blueprint, and what is amiss where it is not.
-/

namespace Automation.Http

namespace Response

theorem ofErrors_inj {errors errors' : List Text} (h : ofErrors errors = ofErrors errors') :
    errors = errors' := by
  have hinj : ∀ t t' : Text, Json.string t = .string t' → t = t' := fun _ _ => Json.string.inj
  simp only [ofErrors, ok, mk.injEq, Json.object.injEq, List.cons.injEq, Prod.mk.injEq,
    Json.array.injEq] at h
  exact List.map_inj_right hinj |>.mp h.2.2.1.2

theorem isSendable_ofErrors (errors : List String) :
    (ofErrors (errors.map .whole)).body.isSendable = true := by
  have herrors : Json.areSendable ((errors.map Text.whole).map .string) = true := by
    rw [Json.areSendable_iff, List.forall_mem_map, List.forall_mem_map]
    intro s _
    rfl
  simp only [ofErrors, ok, Json.isSendable, Json.haveSendable, herrors]
  rfl

end Response

namespace Application

variable {fields : Fields} {errors : List String}

theorem answer_of_ofErrors (h : validate (.object fields) = .ofErrors (errors.map .whole))
    (app : Application) (archive : Archive) :
    app.answer archive (.validate (.object fields)) = (archive, .ofErrors (errors.map .whole)) := by
  have hprepare : app.prepare archive (.validate (.object fields)) =
      (archive, .ofErrors (errors.map .whole)) := by
    rw [← h]
    rfl
  rw [answer_of_isSendable, hprepare]
  rw [hprepare]
  exact Response.isSendable_ofErrors errors

theorem validate_of_malformed {m : Blueprint.Malformed}
    (h : Blueprint.ofDocument (.object fields) = .error m) : validate (.object fields) =
      .ofErrors (["Malformed blueprint: " ++ m.message].map .whole) := by
  rw [validate, h]
  rfl

theorem validate_of_errors {b : Blueprint} (h : Blueprint.ofDocument (.object fields) = .ok b)
    (herrors : b.errors = .ok (errors.map .whole)) :
    validate (.object fields) = .ofErrors (errors.map .whole) := by
  rw [validate, h]
  simp only [herrors]

/-- An object is found valid exactly where it is the document of a valid blueprint. -/
theorem answer_validate (app : Application) (archive : Archive) (fields : Fields) :
    ∃ (valid : Bool) (errors : List String),
      app.answer archive (.validate (.object fields)) = (archive, ⟨200, .object [
        ("valid", .bool valid),
        ("errors", .array (errors.map fun e => .string (.whole e)))
      ]⟩) ∧
      (valid = true ↔ ∃ b, Blueprint.ofDocument (.object fields) = .ok b ∧ b.IsValid) ∧
      (∀ m, Blueprint.ofDocument (.object fields) = .error m →
        m.IsExpected ∧ errors = ["Malformed blueprint: " ++ m.message]) ∧
      ∀ b, Blueprint.ofDocument (.object fields) = .ok b → b.errors = .ok (errors.map .whole) := by
  have hanswer : ∀ errors : List String,
      validate (.object fields) = .ofErrors (errors.map .whole) →
      app.answer archive (.validate (.object fields)) = (archive, ⟨200, .object [
        ("valid", .bool errors.isEmpty),
        ("errors", .array (errors.map fun e => .string (.whole e)))
      ]⟩) := by
    intro errors h
    rw [answer_of_ofErrors h, Response.ofErrors, List.map_map, List.isEmpty_map]
    rfl
  cases h : Blueprint.ofDocument (.object fields) with
  | error m =>
    refine ⟨false, ["Malformed blueprint: " ++ m.message], hanswer _ (validate_of_malformed h),
      ⟨nofun, ?_⟩, ?_, nofun⟩
    . rintro ⟨b, hb, -⟩
      cases hb
    . rintro _ ⟨⟩
      exact ⟨Blueprint.isExpected_of_ofDocument h, rfl⟩
  | ok b =>
    have hends := (Blueprint.areReadable_of_ofDocument h).2
    obtain ⟨errors, herrors, -⟩ := Console.exists_errors hends
    refine ⟨errors.isEmpty, errors, hanswer _ (validate_of_errors h herrors), ?_, nofun, ?_⟩
    . rw [List.isEmpty_iff]
      constructor
      . rintro rfl
        exact ⟨b, rfl, (Blueprint.errors_eq_nil_iff hends).mp herrors⟩
      . rintro ⟨_, ⟨⟩, hvalid⟩
        rw [(Blueprint.errors_eq_nil_iff hends).mpr hvalid] at herrors
        exact List.map_eq_nil_iff.mp (Except.ok.inj herrors).symm
    . rintro _ ⟨⟩
      exact herrors

end Application

end Automation.Http
