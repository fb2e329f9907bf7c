import Automation.Proofs.Console.Message
import Automation.Proofs.Http.Check
import Automation.Proofs.Http.Views

/-!
This module contains the verdicts on blueprints: the console and the web interface agree on every
document, as far as the console can tell of it.
-/

namespace Automation

namespace Console

open Markup (IsFaithful isBracket)

section Valid

open Markup (marked escape)

def sizesText (b : Blueprint) : List Char :=
  ": ".toList ++ ((toString b.nodes.length).toList ++ (" modules, ".toList ++
    ((toString b.connections.length).toList ++ " connections".toList)))

theorem glyphs_validMessage (name : Text) (b : Blueprint) : (validMessage name b).glyphs =
    marked ("green".toList.map .char) '✓' (escape name.glyphs ++ (sizesText b).map .char) := by
  unfold validMessage sizesText
  simp only [Text.glyphs_append, List.append_assoc, List.map_append, plain, Text.glyphs_ofGlyphs]
  rfl

theorem isTame_sizesText (b : Blueprint) : IsTame (sizesText b) := by
  have hlength (n : Nat) : IsTame (toString n).toList :=
    isTame_of_isListing fun c hc => isListing_of_mem_toDigits (Nat.toList_repr ▸ hc)
  have hcolon : IsTame ": ".toList := by decide
  have hmodules : IsTame " modules, ".toList := by decide
  have hconnections : IsTame " connections".toList := by decide
  exact hcolon.append ((hlength _).append (hmodules.append ((hlength _).append hconnections)))

theorem printed_validMessage (name : Text) (b : Blueprint) :
    (∃ s, printed (validMessage name b) = .ok s) ↔ name.isWhole = true := by
  have hsizes : ∀ g ∈ (sizesText b).map Glyph.char,
      isBracket g = false ∧ Emoji.isFixed g = false := by
    rw [List.forall_mem_map]
    intro c hc
    have hspecial := isTame_sizesText b c hc
    simp only [specialChars, List.mem_cons, not_or] at hspecial
    simp [isBracket, Emoji.isFixed, hspecial]
  obtain ⟨t, ht, hwhole⟩ := exists_shown isBullet_valid (glyphs_validMessage name b) hsizes
  rw [← Json.Unbroken.isWhole_ofGlyphs_iff, Text.ofGlyphs_glyphs] at hwhole
  rw [← hwhole, printed, ht]
  cases t with
  | whole s => exact iff_of_true ⟨s, rfl⟩ rfl
  | broken s h t =>
    refine iff_of_false ?_ Bool.false_ne_true
    rintro ⟨s, hs⟩
    cases hs

end Valid

section Agreement

open Http.Application (answer_of_ofErrors validate_of_malformed validate_of_errors)
open Http.Response (ofErrors_inj)

inductive Agrees (o : Outcome) (r : Http.Response) : Prop where
  | valid (response : r = .ofErrors []) (ending : o.ending = .succeeded)
  | malformed (message : String)
    (response : r = .ofErrors [("Malformed blueprint: " ++ message : String)])
    (ending : o.ending = .failed)
    (errors : o.errors = failureText "Malformed blueprint" [message])
  | invalid (errors : List String) (ne_nil : errors ≠ [])
    (response : r = .ofErrors (errors.map .whole)) (ending : o.ending = .failed)
    (told : o.errors = failureText "Blueprint is invalid" errors)

/-- The console shows the message of a malformed document as it is or the name of a valid one. -/
def IsTellable (document : Json) : Prop :=
  match Blueprint.ofDocument document with
  | .error m => IsFaithful (Text.glyphs m.message)
  | .ok b => b.errors = .ok [] → b.name.isVoid = true ∨ ∃ s : String, b.name = .string s

variable {fields : Fields}

theorem isFaithful_malformed : IsFaithful (Text.glyphs "Malformed blueprint") :=
  Markup.isFaithful_of_isQuiet (isQuiet_of_isTame (by decide) (by decide))

theorem isFaithful_invalid : IsFaithful (Text.glyphs "Blueprint is invalid") :=
  Markup.isFaithful_of_isQuiet (isQuiet_of_isTame (by decide) (by decide))

theorem agrees_malformed {m : Blueprint.Malformed}
    (h : Blueprint.ofDocument (.object fields) = .error m) (path : String) (app : Http.Application)
    (archive : Archive) :
    Agrees (validateDocument path (.object fields))
      (app.answer archive (.validate (.object fields))).2 ↔ IsFaithful (Text.glyphs m.message) := by
  have hresponse := answer_of_ofErrors (validate_of_malformed h) app archive
  have houtcome : validateDocument path (.object fields) =
      Outcome.fail {} "Malformed blueprint" [m.message] := by
    rw [validateDocument, h]
  rw [hresponse, houtcome]
  constructor
  . intro hagrees
    cases hagrees with
    | valid response ending => exact nomatch ofErrors_inj response
    | malformed message response ending errors =>
      have hmessage := Text.whole.inj (List.cons.inj (ofErrors_inj response)).1
      rw [String.append_right_inj] at hmessage
      rw [← hmessage] at errors
      exact (errors_fail_iff isFaithful_malformed).mp errors
    | invalid errors ne_nil response ending told =>
      -- The titles are not the same.
      obtain ⟨shown, -, herrors⟩ := errors_fail isFaithful_malformed m.message
      rw [herrors, failureText] at told
      have hhead := congrArg (fun s : String => s.toList[2]?) told
      simp [String.toList_append] at hhead
  . intro hfaithful
    refine .malformed m.message rfl ?_ ((errors_fail_iff isFaithful_malformed).mpr hfaithful)
    obtain ⟨told, htold⟩ := exists_fail {} "Malformed blueprint" [m.message]
    rw [htold]

theorem agrees_invalid {b : Blueprint} (h : Blueprint.ofDocument (.object fields) = .ok b)
    {errors : List String} (herrors : b.errors = .ok (errors.map .whole)) (hne : errors ≠ [])
    (hfaithful : ∀ e ∈ errors, IsFaithful (Text.glyphs e)) (path : String) (app : Http.Application)
    (archive : Archive) :
    Agrees (validateDocument path (.object fields))
      (app.answer archive (.validate (.object fields))).2 := by
  have houtcome : validateDocument path (.object fields) =
      Outcome.fail {} "Blueprint is invalid" (errors.map .whole) := by
    rw [validateDocument, h]
    simp only [herrors]
    cases errors with
    | nil => exact absurd rfl hne
    | cons e errors => rfl
  rw [answer_of_ofErrors (validate_of_errors h herrors), houtcome, fail_eq isFaithful_invalid hfaithful]
  exact .invalid errors hne rfl rfl rfl

theorem agrees_nil_iff {o : Outcome} : Agrees o (.ofErrors []) ↔ o.ending = .succeeded := by
  constructor
  . intro h
    cases h with
    | valid response ending => exact ending
    | malformed message response ending errors => exact nomatch ofErrors_inj response
    | invalid errors ne_nil response ending told =>
      exact absurd (List.map_eq_nil_iff.mp (ofErrors_inj response).symm) ne_nil
  . exact .valid rfl

theorem ending_say_validMessage (name : Text) (b : Blueprint) :
    (Outcome.say {} [validMessage name b]).ending = .succeeded ↔ name.isWhole = true := by
  rw [ending_say rfl, List.forall_mem_singleton, IsPrintable, printed_validMessage]

theorem ending_validateDocument {document : Json} {b : Blueprint}
    (h : Blueprint.ofDocument document = .ok b) (herrors : b.errors = .ok []) (path : String) :
    (validateDocument path document).ending = .succeeded ↔
      b.name.isVoid = true ∨ ∃ s : String, b.name = .string s := by
  rw [validateDocument, h]
  simp only [herrors]
  cases hvoid : b.name.isVoid with
  | true =>
    rw [Json.orElse, if_pos hvoid]
    exact iff_of_true ((ending_say_validMessage _ b).mpr rfl) (.inl rfl)
  | false =>
    rw [Blueprint.orElse_eq_self hvoid]
    cases b.name with
    | string t =>
      simp only [ending_say_validMessage]
      constructor
      . intro ht
        obtain ⟨s, rfl⟩ := Text.eq_whole_of_isWhole ht
        exact .inr ⟨s, rfl⟩
      . rintro (hvoid | ⟨s, hs⟩)
        . cases hvoid
        . cases hs
          rfl
    | _ => simp [Outcome.crash]

theorem answer_validate_of_valid {b : Blueprint} (h : Blueprint.ofDocument (.object fields) = .ok b)
    (herrors : b.errors = .ok []) (app : Http.Application) (archive : Archive) :
    app.answer archive (.validate (.object fields)) = (archive, .ofErrors []) := by
  have hvalidate : Http.Application.validate (.object fields) =
      .ofErrors (([] : List String).map .whole) :=
    validate_of_errors h herrors
  exact answer_of_ofErrors hvalidate app archive

theorem agrees_valid {b : Blueprint} (h : Blueprint.ofDocument (.object fields) = .ok b)
    (herrors : b.errors = .ok []) (path : String) (app : Http.Application) (archive : Archive) :
    Agrees (validateDocument path (.object fields))
      (app.answer archive (.validate (.object fields))).2 ↔
        b.name.isVoid = true ∨ ∃ s : String, b.name = .string s := by
  rw [answer_validate_of_valid h herrors, agrees_nil_iff, ending_validateDocument h herrors]

/-- Of a file that can be read, the console says what the web interface says, as far as it can. -/
theorem validate_agrees {text : String} (hread : Json.ofText text = .ok (.object fields))
    (path : String) (app : Http.Application) (archive : Archive) :
    Agrees (validate path (.text text)) (app.answer archive (.validate (.object fields))).2 ↔
      IsTellable (.object fields) := by
  have hvalidate : validate path (.text text) = validateDocument path (.object fields) := by
    rw [validate, hread]
  rw [hvalidate]
  unfold IsTellable
  cases h : Blueprint.ofDocument (.object fields) with
  | error m => exact agrees_malformed h path app archive
  | ok b =>
    obtain ⟨errors, herrors, hfaithful⟩ :=
      exists_errors (Blueprint.areReadable_of_ofDocument h).2
    by_cases hne : errors = []
    . rw [hne] at herrors
      rw [agrees_valid h herrors path app archive]
      exact ⟨fun htellable _ => htellable, fun htellable => htellable herrors⟩
    . have hagrees := agrees_invalid h herrors hne hfaithful path app archive
      refine iff_of_true hagrees fun hnil => ?_
      rw [herrors] at hnil
      simp [hne] at hnil

def namedText (name : String) : String :=
  "\x7b\"metadata\": \x7b\"name\": " ++ name ++ "\x7d, \"modules\": [\x7b\"id\": 1\x7d]\x7d"

def namedFields (name : Json) : Fields :=
  [("metadata", .object [("name", name)]), ("modules", .array [.object [("id", 1)]])]

theorem validate_agrees_of_text :
    Json.ofText (namedText "\"a\"") = .ok (.object (namedFields "a")) ∧
    Agrees (validate "a.json" (.text (namedText "\"a\"")))
      ((Http.Application.exampleApplication 3).answer .empty
        (.validate (.object (namedFields "a")))).2 := by
  have hread : Json.ofText (namedText "\"a\"") = .ok (.object (namedFields "a")) :=
    eq_ok_of_toOption (by decide +kernel)
  have hname : (Blueprint.ofDocument (.object (namedFields "a"))).toOption.map (·.name) =
      some "a" := by
    decide +kernel
  refine ⟨hread,
    (validate_agrees hread "a.json" (Http.Application.exampleApplication 3) .empty).mpr ?_⟩
  unfold IsTellable
  cases h : Blueprint.ofDocument (.object (namedFields "a")) with
  | error m =>
    rw [h] at hname
    cases hname
  | ok b =>
    rw [h] at hname
    exact fun _ => .inr ⟨"a", Option.some.inj hname⟩

/-- A name that is a number passes the check, but it cannot be told. -/
theorem not_agrees_of_number :
    Json.ofText (namedText "5") = .ok (.object (namedFields 5)) ∧
    ((Http.Application.exampleApplication 3).answer .empty
      (.validate (.object (namedFields 5)))).2 = .ofErrors [] ∧
    (validate "a.json" (.text (namedText "5"))).ending = .crashed (.fault (.notText "int")) ∧
    ¬Agrees (validate "a.json" (.text (namedText "5")))
      ((Http.Application.exampleApplication 3).answer .empty
        (.validate (.object (namedFields 5)))).2 := by
  have hread : Json.ofText (namedText "5") = .ok (.object (namedFields 5)) :=
    eq_ok_of_toOption (by decide +kernel)
  have hresponse : ((Http.Application.exampleApplication 3).answer .empty
      (.validate (.object (namedFields 5)))).2 = .ofErrors [] := by
    decide +kernel
  have hending : (validate "a.json" (.text (namedText "5"))).ending =
      .crashed (.fault (.notText "int")) := by
    decide +kernel
  refine ⟨hread, hresponse, hending, ?_⟩
  rw [hresponse, agrees_nil_iff, hending]
  nofun

end Agreement

end Console

end Automation
