import Mathlib.Data.List.Forall2
import Automation.Proofs.Route

/-!
This module contains words as they are written where case does not count. There is more than one
notion of that: some characters beyond ASCII count as a letter of a word, but the lower case of what
is written with them is not the word.
-/

namespace Automation.Route

open Text Description

section Spelling

/-- Characters beyond ASCII that stand for a letter where case does not count. -/
def twins : List (Char × Char) :=
  [('i', 'ı'), ('i', 'İ'), ('k', '\u212a'), ('s', 'ſ')]

def IsCaseOf (letter c : Char) : Prop :=
  c = letter ∨ c = letter.toUpper ∨ (letter, c) ∈ twins

def IsSpelling (word found : List Char) : Prop :=
  List.Forall₂ IsCaseOf word found

def IsAscii (cs : List Char) : Prop :=
  ∀ c ∈ cs, c.toNat < 128

instance (cs : List Char) : Decidable (IsAscii cs) :=
  decidable_of_iff (cs.all (·.toNat < 128) = true) (by simp [IsAscii])

theorem isLetter_iff {letter c : Char} : isLetter letter c = true ↔ IsCaseOf letter c := by
  have htwins : ((caselessTwins.lookup letter).getD []).contains c = true ↔
      (letter, c) ∈ twins := by
    simp only [caselessTwins, List.lookup_cons, List.lookup_nil, twins]
    by_cases hi : letter = 'i'
    . subst hi
      simp
    by_cases hk : letter = 'k'
    . subst hk
      simp
    by_cases hs : letter = 's'
    . subst hs
      simp
    simp [hi, hk, hs, beq_eq_false_iff_ne.2]
  simp only [isLetter, IsCaseOf, Bool.or_eq_true, beq_iff_eq, htwins, or_assoc]

theorem takeCaseless_eq_some_iff {word cs found rest : List Char} :
    takeCaseless word cs = some (found, rest) ↔ found ++ rest = cs ∧ IsSpelling word found := by
  induction word generalizing cs found with
  | nil =>
    rw [takeCaseless, IsSpelling, List.forall₂_nil_left_iff]
    constructor
    . rintro ⟨⟩
      exact ⟨rfl, rfl⟩
    . rintro ⟨rfl, rfl⟩
      rfl
  | cons letter word ih =>
    cases cs with
    | nil =>
      constructor
      . rintro ⟨⟩
      . rintro ⟨heq, hspelling⟩
        rw [(List.append_eq_nil_iff.1 heq).1] at hspelling
        cases hspelling
    | cons c cs =>
      constructor
      . intro h
        rw [takeCaseless] at h
        split at h
        . rename_i hletter
          obtain ⟨⟨found, rest⟩, htake, heq⟩ := Option.map_eq_some_iff.1 h
          cases heq
          obtain ⟨rfl, hspelling⟩ := ih.1 htake
          exact ⟨rfl, .cons (isLetter_iff.1 hletter) hspelling⟩
        . cases h
      . rintro ⟨heq, hspelling⟩
        obtain _ | ⟨hcase, hspelling⟩ := hspelling
        rw [List.cons_append, List.cons.injEq] at heq
        obtain ⟨rfl, rfl⟩ := heq
        rw [takeCaseless, if_pos (isLetter_iff.2 hcase), ih.2 ⟨rfl, hspelling⟩]
        rfl

theorem isBlank_of_isCaseOf {letter c : Char} (hletter : letter ∈ smallLetters)
    (hcase : IsCaseOf letter c) : Text.isBlank c = false := by
  have hletters : smallLetters.all (fun l =>
      !Text.isBlank l && !Text.isBlank l.toUpper) = true := by
    decide +kernel
  have htwins : twins.all (fun t => !Text.isBlank t.2) = true := by
    decide +kernel
  have hboth := List.all_eq_true.1 hletters letter hletter
  rw [Bool.and_eq_true, Bool.not_eq_true', Bool.not_eq_true'] at hboth
  rcases hcase with rfl | rfl | htwin
  . exact hboth.1
  . exact hboth.2
  . simpa using List.all_eq_true.1 htwins _ htwin

theorem IsSpelling.exists_isCaseOf {word found : List Char} (h : IsSpelling word found) {c : Char}
    (hc : c ∈ found) : ∃ letter ∈ word, IsCaseOf letter c := by
  induction h with
  | nil => cases hc
  | cons hcase _ ih =>
    rcases List.mem_cons.1 hc with rfl | hc
    . exact ⟨_, List.mem_cons_self .., hcase⟩
    . obtain ⟨letter, hletter, hcase⟩ := ih hc
      exact ⟨letter, List.mem_cons_of_mem _ hletter, hcase⟩

theorem IsSpelling.isBlank {word found : List Char} (h : IsSpelling word found)
    (hword : ∀ letter ∈ word, letter ∈ smallLetters) : ∀ c ∈ found, Text.isBlank c = false := by
  intro c hc
  obtain ⟨letter, hletter, hcase⟩ := h.exists_isCaseOf hc
  exact isBlank_of_isCaseOf (hword letter hletter) hcase

end Spelling

section Lower

theorem toNat_lt_iff {letter c : Char} (hletter : letter ∈ smallLetters)
    (hcase : IsCaseOf letter c) : c.toNat < 128 ↔ c = letter ∨ c = letter.toUpper := by
  have hletters : smallLetters.all (fun l => l.toNat < 128 && l.toUpper.toNat < 128) = true := by
    decide +kernel
  have htwins : twins.all (fun t => 128 ≤ t.2.toNat) = true := by decide
  have hboth := List.all_eq_true.1 hletters letter hletter
  rw [Bool.and_eq_true, decide_eq_true_eq, decide_eq_true_eq] at hboth
  constructor
  . intro hascii
    rcases hcase with hsmall | hlarge | htwin
    . exact .inl hsmall
    . exact .inr hlarge
    . have hbeyond := of_decide_eq_true (List.all_eq_true.1 htwins _ htwin)
      exact absurd hascii (Nat.not_lt.2 hbeyond)
  . rintro (rfl | rfl)
    . exact hboth.1
    . exact hboth.2

theorem lowerWithin_of_isCaseOf {letter c : Char} (hletter : letter ∈ smallLetters)
    (hcase : IsCaseOf letter c) (hascii : c.toNat < 128) (before after : List Char) :
    lowerWithin before c after = [letter] := by
  have hletters : smallLetters.all (fun l => [l, l.toUpper].all fun c =>
      c != 'Σ' && c != 'İ' && lowerChar c == l) = true := by
    decide +kernel
  have hboth : c ∈ [letter, letter.toUpper] := by simpa using (toNat_lt_iff hletter hcase).1 hascii
  have hc := List.all_eq_true.1 (List.all_eq_true.1 hletters letter hletter) c hboth
  rw [Bool.and_eq_true, Bool.and_eq_true, bne_iff_ne, bne_iff_ne, beq_iff_eq] at hc
  obtain ⟨⟨hsigma, hdotted⟩, hlower⟩ := hc
  rw [lowerWithin, if_neg hsigma, if_neg hdotted, hlower]

theorem lower_of_isSpelling {word found : List Char} (h : IsSpelling word found)
    (hword : ∀ letter ∈ word, letter ∈ smallLetters) (hascii : IsAscii found) :
    lower found = word := by
  have hgo : ∀ before, lower.go before found = word := by
    induction h with
    | nil => exact fun _ => rfl
    | cons hcase _ ih =>
      intro before
      rw [IsAscii, List.forall_mem_cons] at hascii
      rw [List.forall_mem_cons] at hword
      rw [lower.go, lowerWithin_of_isCaseOf hword.1 hcase hascii.1, ih hword.2 hascii.2]
      rfl
  exact hgo []

/-- In lower case a twin is no small letter, but for the sign of the unit kelvin. -/
theorem exists_mem_lowerWithin {letter c : Char} (htwin : (letter, c) ∈ twins)
    (hkelvin : letter ≠ 'k') (before after : List Char) :
    ∃ d ∈ lowerWithin before c after, d ∉ smallLetters := by
  have hdotless : lowerChar 'ı' = 'ı' := by decide +kernel
  have hlong : lowerChar 'ſ' = 'ſ' := by decide +kernel
  simp only [twins, List.mem_cons, Prod.mk.injEq, List.not_mem_nil, or_false] at htwin
  rcases htwin with ⟨-, rfl⟩ | ⟨-, rfl⟩ | ⟨rfl, -⟩ | ⟨-, rfl⟩
  . exact ⟨'ı', by simp [lowerWithin, hdotless], by decide⟩
  . exact ⟨'\u0307', by simp [lowerWithin], by decide⟩
  . exact absurd rfl hkelvin
  . exact ⟨'ſ', by simp [lowerWithin, hlong], by decide⟩

theorem exists_mem_lower {word found : List Char} (h : IsSpelling word found)
    (hword : ∀ letter ∈ word, letter ∈ smallLetters) (hkelvin : 'k' ∉ word)
    (hascii : ¬ IsAscii found) : ∃ d ∈ lower found, d ∉ smallLetters := by
  simp only [IsAscii, not_forall] at hascii
  obtain ⟨c, hc, hbeyond⟩ := hascii
  obtain ⟨letter, hletter, hcase⟩ := h.exists_isCaseOf hc
  have htwin : (letter, c) ∈ twins := by
    rw [toNat_lt_iff (hword letter hletter) hcase, not_or] at hbeyond
    exact (hcase.resolve_left hbeyond.1).resolve_left hbeyond.2
  obtain ⟨before, after, rfl⟩ := List.append_of_mem hc
  obtain ⟨d, hd, hnot⟩ := exists_mem_lowerWithin htwin
    (ne_of_mem_of_not_mem hletter hkelvin) before.reverse after
  exact ⟨d, mem_lower_append hd, hnot⟩

end Lower

end Automation.Route
