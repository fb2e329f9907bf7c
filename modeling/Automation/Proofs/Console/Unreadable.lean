import Automation.Proofs.Console.Verdict

/-!
This module contains how files that hold no document are told of. A file that is missing or holds a
text that is no document is told of as one that cannot be read; bytes that are no text and texts
that exceed what the reader takes end the command in a crash.
-/

namespace Automation

theorem fromUTF8?_eq_some_iff {content : ByteArray} {text : String} :
    String.fromUTF8? content = some text ↔ content = text.toUTF8 := by
  constructor
  . intro h
    unfold String.fromUTF8? at h
    split at h
    . cases h
      rfl
    . cases h
  . rintro rfl
    rw [String.fromUTF8?, String.toUTF8_eq_toByteArray, dif_pos text.isValidUTF8]
    rfl

namespace Console

open Json (Unbroken)
open Markup (IsFaithful)

section Content

variable {content : ByteArray} {text : String}

theorem ofFile_toUTF8 (text : String) : FileContent.ofFile (some text.toUTF8) = .text text := by
  rw [FileContent.ofFile, fromUTF8?_eq_some_iff.2 rfl]

theorem ofFile_of_ne (h : ∀ text, content ≠ String.toUTF8 text) :
    FileContent.ofFile (some content) = .bytes := by
  have hnone : String.fromUTF8? content = none :=
    Option.eq_none_iff_forall_ne_some.2 fun text htext => h text (fromUTF8?_eq_some_iff.1 htext)
  rw [FileContent.ofFile, hnone]

theorem text_or_bytes (content : ByteArray) :
    (∃ text, content = String.toUTF8 text) ∨ ∀ text, content ≠ String.toUTF8 text := by
  cases h : String.fromUTF8? content with
  | some text => exact .inl ⟨text, fromUTF8?_eq_some_iff.1 h⟩
  | none =>
    right
    intro text htext
    rw [fromUTF8?_eq_some_iff.2 htext] at h
    cases h

end Content

def IsDocument (file : Option ByteArray) : Prop :=
  ∃ text document, file = some (String.toUTF8 text) ∧ Json.ofText text = .ok document

/-- Files without a document that the command does not see to. -/
inductive IsOverlooked : Option ByteArray → Prop
  | bytes {content : ByteArray} (h : ∀ text, content ≠ String.toUTF8 text) : IsOverlooked (some content)
  | excess {text : String} {fault : Fault} (h : Json.ofText text = .error (.excess fault)) :
    IsOverlooked (some text.toUTF8)

/-- It is told that the file cannot be read, and the command fails without a crash. What the system
says of the file is left out. -/
structure TellsUnreadable (path : String) (o : Outcome) : Prop where
  ending : o.ending = .failed
  exitCode : o.exitCode = 1
  errors : o.errors = "✗ Cannot read " ++ path ++ "\n"

section Told

theorem errors_fail_nil (title : String) :
    ∃ told, shown ("[red]✗[/red] " ++ plain title) = .ok (.whole told) ∧
      (Outcome.fail {} title []).errors = told := by
  obtain ⟨u, hu, hwhole⟩ := exists_shown_title title
  obtain ⟨told, rfl⟩ := Text.eq_whole_of_isWhole (hwhole.mpr (Unbroken.chars title.toList))
  refine ⟨told, hu, ?_⟩
  have hjoin := nameHalves_join [told]
  rw [String.join_cons, String.join_nil, String.append_empty] at hjoin
  rw [Outcome.fail]
  simp only [List.map_nil, List.mapM_cons, List.mapM_nil, hu, bind, Except.bind, pure, Except.pure]
  exact (String.empty_append).trans hjoin

theorem errors_fail_nil_iff (title : String) :
    (Outcome.fail {} title []).errors = "✗ " ++ title ++ "\n" ↔
      IsFaithful (Text.glyphs title) := by
  obtain ⟨told, hshown, herrors⟩ := errors_fail_nil title
  have htitle := shown_title_iff (t := .whole title)
  rw [hshown, Except.ok.injEq] at htitle
  rw [← htitle, herrors]
  exact (Text.whole.injEq told _).to_iff.symm

theorem tellsUnreadable_fail_iff (path : String) :
    TellsUnreadable path (Outcome.fail {} ("Cannot read " ++ path) []) ↔
      IsFaithful (Text.glyphs ("Cannot read " ++ path : String)) := by
  have hline : "✗ " ++ ("Cannot read " ++ path) ++ "\n" = "✗ Cannot read " ++ path ++ "\n" := by
    rw [← String.append_assoc]
    rfl
  rw [← errors_fail_nil_iff, hline]
  obtain ⟨told, htold⟩ := exists_fail {} ("Cannot read " ++ path) []
  constructor
  . exact fun h => h.errors
  . intro herrors
    exact ⟨by rw [htold], by rw [htold]; rfl, herrors⟩

/-- A document is never told of as a file that cannot be read, whatever is amiss in it. -/
theorem not_tellsUnreadable_document (path : String) (document : Json) :
    ¬TellsUnreadable path (validateDocument path document) := by
  -- The titles of other failures differ in their first letters.
  have htitled {title : String} (hfaithful : IsFaithful (Text.glyphs title)) {c : Char}
      {cs : List Char} (htitle : title.toList = c :: cs) (hc : c ≠ 'C') (errors : List Text) :
      ¬TellsUnreadable path (Outcome.fail {} title errors) := by
    obtain ⟨told, htold⟩ := exists_fail_titled hfaithful {} errors
    intro h
    have hline := h.errors
    rw [htold] at hline
    have hletter := congrArg (fun s : String => s.toList[2]?) hline
    simp [String.toList_append, htitle, hc] at hletter
  unfold validateDocument
  split
  . exact htitled isFaithful_malformed rfl (by decide) _
  . split
    . exact fun h => nomatch h.ending
    . split
      . obtain ⟨output, ending, hsay⟩ := exists_say {} _
        intro h
        have hline := h.errors
        rw [hsay] at hline
        simpa using congrArg String.toList hline
      . exact fun h => nomatch h.ending
    . exact htitled isFaithful_invalid rfl (by decide) _

end Told

section Files

variable {text : String}

theorem toUTF8_inj {other : String} : text.toUTF8 = other.toUTF8 ↔ text = other :=
  String.toByteArray_inj

theorem isDocument_toUTF8_iff :
    IsDocument (some text.toUTF8) ↔ ∃ document, Json.ofText text = .ok document := by
  constructor
  . rintro ⟨other, document, hother, hread⟩
    rw [toUTF8_inj.1 (Option.some.inj hother)]
    exact ⟨document, hread⟩
  . rintro ⟨document, hread⟩
    exact ⟨text, document, rfl, hread⟩

theorem isOverlooked_toUTF8_iff :
    IsOverlooked (some text.toUTF8) ↔ ∃ fault, Json.ofText text = .error (.excess fault) := by
  constructor
  . generalize hcontent : text.toUTF8 = content
    intro h
    cases h with
    | bytes h => exact absurd hcontent.symm (h text)
    | excess h =>
      rw [toUTF8_inj.1 hcontent]
      exact ⟨_, h⟩
  . rintro ⟨fault, h⟩
    exact .excess h

theorem tellsUnreadable_unreadable_iff (path : String) {file : Option ByteArray}
    (hdocument : ¬IsDocument file) (hoverlooked : ¬IsOverlooked file) :
    TellsUnreadable path (validate.unreadable path) ↔ ¬IsDocument file ∧ ¬IsOverlooked file ∧
      IsFaithful (Text.glyphs ("Cannot read " ++ path : String)) := by
  rw [and_iff_right hdocument, and_iff_right hoverlooked]
  exact tellsUnreadable_fail_iff path

theorem not_tellsUnreadable_of_crash {path : String} {o : Outcome} {crash : Crash}
    (h : o.ending = .crashed crash) : ¬TellsUnreadable path o := by
  intro htold
  rw [htold.ending] at h
  cases h

theorem tellsUnreadable_text_iff (path text : String) :
    (TellsUnreadable path (validate path (.text text)) ↔ ¬IsDocument (some text.toUTF8) ∧
      ¬IsOverlooked (some text.toUTF8) ∧ IsFaithful (Text.glyphs ("Cannot read " ++ path : String))) ∧
    (IsOverlooked (some text.toUTF8) →
      ∃ crash, (validate path (.text text)).ending = .crashed crash) := by
  rw [validate]
  cases hread : Json.ofText text with
  | ok document =>
    have hdocument := isDocument_toUTF8_iff.2 ⟨document, hread⟩
    have hoverlooked : ¬IsOverlooked (some text.toUTF8) := by
      rw [isOverlooked_toUTF8_iff, hread]
      rintro ⟨fault, ⟨⟩⟩
    refine ⟨iff_of_false (not_tellsUnreadable_document path document) ?_, fun h => ?_⟩
    . exact fun h => h.1 hdocument
    . exact absurd h hoverlooked
  | error r =>
    have hdocument : ¬IsDocument (some text.toUTF8) := by
      rw [isDocument_toUTF8_iff, hread]
      rintro ⟨document, ⟨⟩⟩
    cases r with
    | malformed =>
      have hoverlooked : ¬IsOverlooked (some text.toUTF8) := by
        rw [isOverlooked_toUTF8_iff, hread]
        rintro ⟨fault, ⟨⟩⟩
      exact ⟨tellsUnreadable_unreadable_iff path hdocument hoverlooked, fun h => absurd h hoverlooked⟩
    | excess fault =>
      have hoverlooked := isOverlooked_toUTF8_iff.2 ⟨fault, hread⟩
      refine ⟨iff_of_false (not_tellsUnreadable_of_crash rfl) ?_, fun _ => ⟨_, rfl⟩⟩
      exact fun h => h.2.1 hoverlooked

/-- A file without a document is told of as one that cannot be read, unless it is overlooked or its
path is not shown as it is. -/
theorem tellsUnreadable_iff (path : String) (file : Option ByteArray) :
    (TellsUnreadable path (validate path (.ofFile file)) ↔ ¬IsDocument file ∧ ¬IsOverlooked file ∧
      IsFaithful (Text.glyphs ("Cannot read " ++ path : String))) ∧
    (IsOverlooked file → ∃ crash, (validate path (.ofFile file)).ending = .crashed crash) := by
  cases file with
  | none =>
    have hdocument : ¬IsDocument none := by
      rintro ⟨text, document, ⟨⟩, -⟩
    have hoverlooked : ¬IsOverlooked none := by
      rintro ⟨⟩
    exact ⟨tellsUnreadable_unreadable_iff path hdocument hoverlooked, fun h => absurd h hoverlooked⟩
  | some content =>
    rcases text_or_bytes content with ⟨text, rfl⟩ | hbytes
    . rw [ofFile_toUTF8]
      exact tellsUnreadable_text_iff path text
    . rw [ofFile_of_ne hbytes]
      refine ⟨iff_of_false (not_tellsUnreadable_of_crash rfl) ?_, fun _ => ⟨_, rfl⟩⟩
      exact fun h => h.2.1 (.bytes hbytes)

/-- A byte that begins no character ends the command in a crash; of a missing file it is told. -/
theorem not_tellsUnreadable_of_byte :
    ¬IsDocument (some ⟨#[0xFF]⟩) ∧
    (validate "a.json" (.ofFile (some ⟨#[0xFF]⟩))).ending = .crashed .undecodable ∧
    ¬TellsUnreadable "a.json" (validate "a.json" (.ofFile (some ⟨#[0xFF]⟩))) ∧
    TellsUnreadable "a.json" (validate "a.json" (.ofFile none)) := by
  have hnone : String.fromUTF8? ⟨#[0xFF]⟩ = none := by decide +kernel
  have hending : (validate "a.json" (.ofFile (some ⟨#[0xFF]⟩))).ending = .crashed .undecodable := by
    rw [FileContent.ofFile, hnone]
    rfl
  have hfaithful : IsFaithful (Text.glyphs "Cannot read a.json") :=
    Markup.isFaithful_of_isQuiet (isQuiet_of_isTame (by decide) (by decide))
  refine ⟨?_, hending, not_tellsUnreadable_of_crash hending,
    (tellsUnreadable_fail_iff "a.json").2 hfaithful⟩
  rintro ⟨text, document, htext, -⟩
  rw [fromUTF8?_eq_some_iff.2 (Option.some.inj htext)] at hnone
  cases hnone

end Files

end Console

end Automation
