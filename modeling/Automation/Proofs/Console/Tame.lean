import Automation.Proofs.Blueprint.Validation
import Automation.Proofs.Console.Shown
import Automation.Proofs.Json.Token
import Automation.Proofs.Text.Glyphs

/-!
This module contains the texts that the console shows as they are because nothing in them means
anything to it. The errors of a blueprint whose connections end at whole numbers are such texts.
-/

namespace Automation.Console

open Markup (IsQuiet IsFaithful isControl)

section Tame

/-- Characters with a meaning in markup and characters of control. -/
def specialChars : List Char :=
  ['[', ']', '\\', '\t', '\x07', '\x08', '\x0b', '\x0c', '\x0d']

def IsTame (cs : List Char) : Prop :=
  ∀ c ∈ cs, c ∉ specialChars

instance : DecidablePred IsTame :=
  fun cs => decidable_of_iff (cs.all (· ∉ specialChars) = true) (by simp [IsTame])

def isListing (c : Char) : Bool :=
  c.isDigit || ['-', '>', ',', ' '].contains c

theorem not_special_of_isListing {c : Char} (h : isListing c = true) : c ∉ ':' :: specialChars := by
  have hall : (':' :: specialChars).all (!isListing ·) = true := by decide
  intro hmem
  have hlisting := List.all_eq_true.1 hall c hmem
  rw [h] at hlisting
  cases hlisting

theorem isListing_of_mem_toDigits {n : Nat} {c : Char} (h : c ∈ Nat.toDigits 10 n) :
    isListing c = true := by
  rw [isListing, Json.isDigit_of_mem h]
  rfl

theorem isListing_of_mem_toString {n : Int} {c : Char} (h : c ∈ (toString n).toList) :
    isListing c = true := by
  obtain ⟨m, rfl | rfl⟩ := n.eq_nat_or_neg
  . rw [Json.toList_toString_natCast] at h
    exact isListing_of_mem_toDigits h
  . cases m with
    | zero => exact isListing_of_mem_toDigits (Json.toList_toString_natCast 0 ▸ h)
    | succ m =>
      rw [Json.toList_toString_neg (Nat.succ_pos m), List.mem_cons] at h
      rcases h with rfl | h
      . rfl
      . exact isListing_of_mem_toDigits h

theorem isQuiet_of_isTame {cs : List Char} (h : IsTame cs) (hcolon : cs.count ':' ≤ 1) :
    IsQuiet (cs.map .char) := by
  have hmem {c : Char} (hc : c ∈ specialChars) : Glyph.char c ∉ cs.map .char := by
    intro hmem
    obtain ⟨d, hd, heq⟩ := List.mem_map.mp hmem
    cases heq
    exact h c hd hc
  have hslash : Glyph.char '\\' ∉ cs.map .char := hmem (by decide)
  refine ⟨Emoji.isCodeFree_of_count ?_, ?_, ?_, ?_⟩
  . rwa [Glyph.count_map_char]
  . exact fun hwithin => hslash (hwithin.subset (List.mem_cons_self ..))
  . exact fun hlast => hslash (List.mem_of_getLast? hlast)
  . intro g hg
    obtain ⟨c, hc, rfl⟩ := List.mem_map.mp hg
    have hspecial := h c hc
    simp only [specialChars, List.mem_cons, not_or] at hspecial
    simp [isControl, Glyph.shape, hspecial]

theorem IsTame.append {cs ds : List Char} (h : IsTame cs) (h' : IsTame ds) : IsTame (cs ++ ds) :=
  List.forall_mem_append.mpr ⟨h, h'⟩

theorem isTame_of_isListing {cs : List Char} (h : ∀ c ∈ cs, isListing c = true) : IsTame cs :=
  fun c hc hmem => not_special_of_isListing (h c hc) (List.mem_cons_of_mem _ hmem)

theorem isQuiet_append {title listing : List Char} (htitle : IsTame title)
    (hcolon : title.count ':' ≤ 1) (h : ∀ c ∈ listing, isListing c = true) :
    IsQuiet ((title ++ listing).map .char) := by
  apply isQuiet_of_isTame
  . exact htitle.append (isTame_of_isListing h)
  . have hlisting : listing.count ':' = 0 := by
      rw [List.count_eq_zero]
      exact fun hmem => not_special_of_isListing (h ':' hmem) (List.mem_cons_self ..)
    rwa [List.count_append, hlisting]

end Tame

section Errors

open Blueprint (Defect HasWholeEnds)

def IsPlainError (t : Text) : Prop :=
  ∃ s : String, t = .whole s ∧ IsQuiet (Text.glyphs s)

theorem isPlainError_noModules : IsPlainError Defect.noModules.message :=
  ⟨_, rfl, isQuiet_of_isTame (by decide) (by decide)⟩

theorem isPlainError_duplicateIds (ids : List Int) :
    IsPlainError (Defect.duplicateIds ids).message := by
  refine ⟨_, rfl, ?_⟩
  unfold Text.glyphs
  rw [String.toList_append, String.toList_intercalate]
  apply isQuiet_append (by decide) (by decide)
  intro c hc
  rcases Text.mem_intercalate hc with hc | ⟨cs, hcs, hc⟩
  . exact List.all_eq_true.1 (by decide : ", ".toList.all isListing = true) c hc
  . rw [List.map_map, List.mem_map] at hcs
    obtain ⟨id, -, rfl⟩ := hcs
    exact isListing_of_mem_toString hc

theorem isPlainError_danglingConnection (source target : Int) :
    IsPlainError (Defect.danglingConnection (.int source) (.int target)).message := by
  rw [Defect.message, Json.text_int, Json.text_int]
  refine ⟨_, rfl, ?_⟩
  unfold Text.glyphs
  rw [String.toList_append, String.toList_append, String.toList_append, List.append_assoc,
    List.append_assoc]
  apply isQuiet_append (by decide) (by decide)
  rw [List.forall_mem_append, List.forall_mem_append]
  exact ⟨fun c => isListing_of_mem_toString,
    List.all_eq_true.1 (by decide : " -> ".toList.all isListing = true),
    fun c => isListing_of_mem_toString⟩

theorem isPlainError_of_mem_defects {b : Blueprint} {ds : List Defect} (hds : b.defects = .ok ds)
    (h : ∀ c ∈ b.connections, HasWholeEnds c) : ∀ d ∈ ds, IsPlainError d.message := by
  unfold Blueprint.defects at hds
  rw [Blueprint.danglingConnections_eq b.ids h] at hds
  cases hds
  intro d hd
  rw [List.mem_append, List.mem_append] at hd
  rcases hd with (hd | hd) | hd
  . split at hd
    . rw [List.mem_singleton] at hd
      rw [hd]
      exact isPlainError_noModules
    . cases hd
  . split at hd
    . cases hd
    . rw [List.mem_singleton] at hd
      rw [hd]
      exact isPlainError_duplicateIds _
  . obtain ⟨c, hc, rfl⟩ := List.mem_map.mp hd
    obtain ⟨source, target, hs, ht⟩ := h c (List.mem_filter.mp hc).1
    rw [hs, ht]
    exact isPlainError_danglingConnection source target

theorem exists_strings {ts : List Text} (h : ∀ t ∈ ts, IsPlainError t) :
    ∃ ss : List String, ts = ss.map .whole ∧ ∀ s ∈ ss, IsQuiet (Text.glyphs s) := by
  induction ts with
  | nil => exact ⟨[], rfl, List.forall_mem_nil _⟩
  | cons t ts ih =>
    rw [List.forall_mem_cons] at h
    obtain ⟨⟨s, rfl, hs⟩, hts⟩ := h
    obtain ⟨ss, rfl, hss⟩ := ih hts
    exact ⟨s :: ss, rfl, List.forall_mem_cons.mpr ⟨hs, hss⟩⟩

theorem exists_errors {b : Blueprint} (h : ∀ c ∈ b.connections, HasWholeEnds c) :
    ∃ errors : List String, b.errors = .ok (errors.map .whole) ∧
      ∀ e ∈ errors, IsFaithful (Text.glyphs e) := by
  obtain ⟨ds, hds⟩ := Blueprint.exists_defects h
  have hplain : ∀ t ∈ ds.map Defect.message, IsPlainError t := by
    rw [List.forall_mem_map]
    exact isPlainError_of_mem_defects hds h
  obtain ⟨errors, herrors, hquiet⟩ := exists_strings hplain
  refine ⟨errors, ?_, fun e he => Markup.isFaithful_of_isQuiet (hquiet e he)⟩
  rw [Blueprint.errors, hds, ← herrors]
  rfl

end Errors

end Automation.Console
