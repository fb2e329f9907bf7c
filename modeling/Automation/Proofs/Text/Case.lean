import Automation.Text.Blank
import Automation.Text.Case
import Automation.Text.Word

/-!
This module contains laws of the lower case of texts. A character in lower case stays as it is, so
that the lower case of a text is its own lower case; no lower case form is blank, unless it is that
of a blank; and lower case forms are word characters where the characters themselves are. A
character without case that no search for a letter passes over keeps what is on its two sides apart.
-/

namespace Automation.Text

section Codes

def bits (ns : List Nat) : Nat :=
  ns.foldr (fun n m => m ||| 1 <<< n) 0

theorem testBit_bits (ns : List Nat) (n : Nat) : (bits ns).testBit n = decide (n ∈ ns) := by
  induction ns with
  | nil => simp [bits]
  | cons k ns ih =>
    change (bits ns ||| 1 <<< k).testBit n = _
    rw [Nat.testBit_or, ih, Nat.one_shiftLeft, Nat.testBit_two_pow]
    simp [Bool.or_comm, eq_comm]

theorem not_mem_of_bits {ms ns : List Nat} (h : bits ms &&& bits ns = 0) {n : Nat} (hm : n ∈ ms) :
    n ∉ ns := by
  intro hn
  have hbit : (bits ms &&& bits ns).testBit n = true := by
    rw [Nat.testBit_and, testBit_bits, testBit_bits]
    simp [hm, hn]
  rw [h, Nat.zero_testBit] at hbit
  cases hbit

def upperCodes : List Nat :=
  lowerRuns.flatMap fun (lo, hi, step, _) => List.range' lo ((hi - lo) / step + 1) step

/-- The codes of lower case forms; a number that is no code point gives the character zero. -/
def lowerCodes : List Nat :=
  0 :: 'σ'.toNat :: 'ς'.toNat :: 'i'.toNat :: '\u0307'.toNat ::
    lowerRuns.flatMap fun (lo, hi, step, image) => List.range' image ((hi - lo) / step + 1) step

def blankCodes : List Nat :=
  blankRanges.flatMap fun (lo, hi) => List.range' lo (hi - lo + 1)

def otherCodes : List Nat :=
  'Σ'.toNat :: 'İ'.toNat :: (blankCodes ++ upperCodes)

theorem lowerCodes_apart : bits lowerCodes &&& bits otherCodes = 0 := by
  decide +kernel

theorem mem_blankCodes {c : Char} (h : isBlank c = true) : c.toNat ∈ blankCodes := by
  obtain ⟨r, hr, hlow, hhigh⟩ := inRanges_iff.1 h
  apply List.mem_flatMap_of_mem hr
  rw [List.mem_range'_1]
  omega

end Codes

theorem lowerChar_cases (c : Char) :
    lowerChar c = c ∨ ∃ lo hi step image, (lo, hi, step, image) ∈ lowerRuns ∧ lo ≤ c.toNat ∧
      c.toNat ≤ hi ∧ (c.toNat - lo) % step = 0 ∧
      lowerChar c = Char.ofNat (image + (c.toNat - lo)) := by
  unfold lowerChar
  split
  . rename_i lo hi step image hfind
    have hin := List.find?_some hfind
    simp only [Bool.and_eq_true, decide_eq_true_eq, beq_iff_eq] at hin
    exact .inr ⟨lo, hi, step, image, List.mem_of_find?_eq_some hfind, hin.1.1, hin.1.2, hin.2, rfl⟩
  . exact .inl rfl

theorem mem_range'_of_mod {lo hi step n : Nat} (hlo : lo ≤ n) (hhi : n ≤ hi)
    (hmod : (n - lo) % step = 0) (start : Nat) :
    start + (n - lo) ∈ List.range' start ((hi - lo) / step + 1) step := by
  rw [List.mem_range']
  refine ⟨(n - lo) / step, ?_, ?_⟩
  . have hle : (n - lo) / step ≤ (hi - lo) / step := Nat.div_le_div_right (by omega)
    omega
  . have hdiv := Nat.div_add_mod (n - lo) step
    omega

theorem lowerChar_of_not_mem {c : Char} (h : c.toNat ∉ upperCodes) : lowerChar c = c := by
  rcases lowerChar_cases c with hsame | ⟨lo, hi, step, image, hrun, hlo, hhi, hmod, -⟩
  . exact hsame
  . have hmem := mem_range'_of_mod hlo hhi hmod lo
    rw [Nat.add_sub_cancel' hlo] at hmem
    exact absurd (List.mem_flatMap_of_mem hrun hmem) h

theorem toNat_ofNat_cases (n : Nat) : (Char.ofNat n).toNat = n ∨ (Char.ofNat n).toNat = 0 := by
  by_cases h : n.isValidChar
  . rw [Char.ofNat, dif_pos h]
    exact .inl rfl
  . rw [Char.ofNat, dif_neg h]
    exact .inr rfl

theorem lowerChar_eq_or_mem (c : Char) :
    lowerChar c = c ∨ (lowerChar c).toNat ∈ lowerCodes := by
  rcases lowerChar_cases c with hsame | ⟨lo, hi, step, image, hrun, hlo, hhi, hmod, himage⟩
  . exact .inl hsame
  . right
    rw [himage]
    rcases toNat_ofNat_cases (image + (c.toNat - lo)) with h | h
    . rw [h]
      simp only [lowerCodes, List.mem_cons, List.mem_flatMap]
      exact .inr (.inr (.inr (.inr (.inr ⟨_, hrun, mem_range'_of_mod hlo hhi hmod image⟩))))
    . rw [h]
      exact List.mem_cons_self ..

def IsLower (c : Char) : Prop :=
  ∀ before after, lowerWithin before c after = [c]

theorem isLower_of_lowerChar {c : Char} (hsigma : c ≠ 'Σ') (hdotted : c ≠ 'İ')
    (h : lowerChar c = c) : IsLower c := by
  intro before after
  rw [lowerWithin, if_neg hsigma, if_neg hdotted, h]

theorem isLower_of_code {c : Char} (h : c.toNat ∈ lowerCodes) : IsLower c := by
  have hother := not_mem_of_bits lowerCodes_apart h
  simp only [otherCodes, List.mem_cons, List.mem_append, not_or] at hother
  obtain ⟨hsigma, hdotted, -, hupper⟩ := hother
  apply isLower_of_lowerChar
  . rintro rfl
    exact hsigma rfl
  . rintro rfl
    exact hdotted rfl
  . exact lowerChar_of_not_mem hupper

theorem isBlank_of_code {c : Char} (h : c.toNat ∈ lowerCodes) : isBlank c = false := by
  have hother := not_mem_of_bits lowerCodes_apart h
  simp only [otherCodes, List.mem_cons, List.mem_append, not_or] at hother
  rw [← Bool.not_eq_true]
  intro hblank
  exact hother.2.2.1 (mem_blankCodes hblank)

theorem lowerWithin_cases {before after : List Char} {c d : Char}
    (hd : d ∈ lowerWithin before c after) : d = c ∧ IsLower c ∨ d.toNat ∈ lowerCodes := by
  unfold lowerWithin at hd
  split at hd
  . rw [List.mem_singleton] at hd
    split at hd
    . rw [hd]
      exact .inr (by simp [lowerCodes])
    . rw [hd]
      exact .inr (by simp [lowerCodes])
  . rename_i hsigma
    split at hd
    . rw [List.mem_cons, List.mem_singleton] at hd
      rcases hd with rfl | rfl
      . exact .inr (by simp [lowerCodes])
      . exact .inr (by simp [lowerCodes])
    . rename_i hdotted
      rw [List.mem_singleton] at hd
      rcases lowerChar_eq_or_mem c with h | h
      . exact .inl ⟨hd.trans h, isLower_of_lowerChar hsigma hdotted h⟩
      . rw [hd]
        exact .inr h

theorem lowerWithin_ne_nil (before : List Char) (c : Char) (after : List Char) :
    lowerWithin before c after ≠ [] := by
  unfold lowerWithin
  split
  . simp
  . split <;> simp

theorem mem_lower {cs : List Char} {d : Char} (h : d ∈ lower cs) :
    ∃ c ∈ cs, ∃ before after, d ∈ lowerWithin before c after := by
  have hgo : ∀ before, d ∈ lower.go before cs →
      ∃ c ∈ cs, ∃ before after, d ∈ lowerWithin before c after := by
    clear h
    induction cs with
    | nil => exact fun _ h => absurd h List.not_mem_nil
    | cons c cs ih =>
      intro before h
      rw [lower.go, List.mem_append] at h
      rcases h with hc | hcs
      . exact ⟨c, List.mem_cons_self .., before, cs, hc⟩
      . obtain ⟨c', hc', hd⟩ := ih _ hcs
        exact ⟨c', List.mem_cons_of_mem _ hc', hd⟩
  exact hgo [] h

theorem mem_lower_append {before after : List Char} {c d : Char}
    (h : d ∈ lowerWithin before.reverse c after) : d ∈ lower (before ++ c :: after) := by
  have hgo : ∀ read, d ∈ lowerWithin (before.reverse ++ read) c after →
      d ∈ lower.go read (before ++ c :: after) := by
    clear h
    induction before with
    | nil => exact fun read h => List.mem_append_left _ h
    | cons b before ih =>
      intro read h
      rw [List.reverse_cons, List.append_assoc] at h
      exact List.mem_append_right _ (ih _ h)
  apply hgo []
  rwa [List.append_nil]

theorem isLower_of_mem_lower {cs : List Char} {d : Char} (h : d ∈ lower cs) : IsLower d := by
  obtain ⟨c, -, before, after, hd⟩ := mem_lower h
  rcases lowerWithin_cases hd with ⟨rfl, hlower⟩ | hcode
  . exact hlower
  . exact isLower_of_code hcode

theorem lower_eq_self {cs : List Char} (h : ∀ c ∈ cs, IsLower c) : lower cs = cs := by
  have hgo : ∀ before, lower.go before cs = cs := by
    induction cs with
    | nil => exact fun _ => rfl
    | cons c cs ih =>
      intro before
      rw [List.forall_mem_cons] at h
      rw [lower.go, h.1, ih h.2]
      rfl
  exact hgo []

theorem lower_lower (cs : List Char) : lower (lower cs) = lower cs :=
  lower_eq_self fun _ => isLower_of_mem_lower

theorem isBlank_of_mem_lowerWithin {before after : List Char} {c d : Char}
    (h : isBlank c = false) (hd : d ∈ lowerWithin before c after) : isBlank d = false := by
  rcases lowerWithin_cases hd with ⟨rfl, -⟩ | hcode
  . exact h
  . exact isBlank_of_code hcode

section Words

theorem blankRanges_apart : ∀ b ∈ blankRanges, ∀ w ∈ wordRanges, b.2 < w.1 ∨ w.2 < b.1 := by
  decide +kernel

theorem isWord_of_isBlank {c : Char} (h : isBlank c = true) : isWord c = false := by
  obtain ⟨b, hb, hlow, hhigh⟩ := inRanges_iff.1 h
  rw [← Bool.not_eq_true]
  intro hword
  obtain ⟨w, hw, hlow', hhigh'⟩ := inRanges_iff.1 hword
  rcases blankRanges_apart b hb w hw with h | h <;> omega

def rangeBits (ranges : List (Nat × Nat)) : Nat :=
  ranges.foldr (fun r m => m ||| (1 <<< (r.2 + 1 - r.1) - 1) <<< r.1) 0

theorem testBit_rangeBits (ranges : List (Nat × Nat)) (n : Nat) :
    (rangeBits ranges).testBit n = ranges.any fun (lo, hi) => lo ≤ n && n ≤ hi := by
  induction ranges with
  | nil => simp [rangeBits]
  | cons r ranges ih =>
    change (rangeBits ranges ||| (1 <<< (r.2 + 1 - r.1) - 1) <<< r.1).testBit n = _
    rw [Nat.testBit_or, ih, Nat.testBit_shiftLeft, Nat.one_shiftLeft, Nat.testBit_two_pow_sub_one,
      List.any_cons, Bool.or_comm]
    have hin : decide (n - r.1 < r.2 + 1 - r.1) = decide (n ≤ r.2) ∨ ¬ r.1 ≤ n := by
      simp only [decide_eq_decide]
      omega
    rcases hin with hin | hlow
    . rw [hin]
    . simp [hlow]

/-- The characters of a run are word characters where their lower case forms are. -/
theorem wordRanges_runs : ∀ r ∈ lowerRuns,
    rangeBits wordRanges >>> r.1 &&& bits (List.range' 0 ((r.2.1 - r.1) / r.2.2.1 + 1) r.2.2.1) =
      rangeBits wordRanges >>> r.2.2.2 &&&
        bits (List.range' 0 ((r.2.1 - r.1) / r.2.2.1 + 1) r.2.2.1) := by
  decide +kernel

theorem isValidChar_runs : ∀ r ∈ lowerRuns, r.2.2.2 + (r.2.1 - r.1) < 0xD800 ∨
    0xDFFF < r.2.2.2 ∧ r.2.2.2 + (r.2.1 - r.1) < 0x110000 := by
  decide +kernel

theorem isWord_lowerChar (c : Char) : isWord (lowerChar c) = isWord c := by
  rcases lowerChar_cases c with hsame | ⟨lo, hi, step, image, hrun, hlo, hhi, hmod, himage⟩
  . rw [hsame]
  . have hvalid : (image + (c.toNat - lo)).isValidChar := by
      have hends := isValidChar_runs _ hrun
      dsimp only at hends
      unfold Nat.isValidChar
      omega
    have hoffset := mem_range'_of_mod hlo hhi hmod 0
    rw [Nat.zero_add] at hoffset
    have hbit := congrArg (Nat.testBit · (c.toNat - lo)) (wordRanges_runs _ hrun)
    simp only [Nat.testBit_and, testBit_bits, Nat.testBit_shiftRight, testBit_rangeBits, hoffset,
      decide_true, Bool.and_true, Nat.add_sub_cancel' hlo] at hbit
    have hcode : (lowerChar c).toNat = image + (c.toNat - lo) := by
      rw [himage, Char.ofNat, dif_pos hvalid]
      rfl
    unfold isWord inRanges
    rw [hcode]
    exact hbit.symm

theorem any_lowerWithin (before : List Char) (c : Char) (after : List Char) :
    (lowerWithin before c after).any isWord = isWord c := by
  unfold lowerWithin
  split
  . rename_i hsigma
    rw [hsigma]
    split
    . decide +kernel
    . decide +kernel
  . split
    . rename_i hdotted
      rw [hdotted]
      decide +kernel
    . rw [List.any_cons, List.any_nil, Bool.or_false, isWord_lowerChar]

theorem any_lower (cs : List Char) : (lower cs).any isWord = cs.any isWord := by
  have hgo : ∀ before, (lower.go before cs).any isWord = cs.any isWord := by
    induction cs with
    | nil => exact fun _ => rfl
    | cons c cs ih =>
      intro before
      rw [lower.go, List.any_append, any_lowerWithin, ih, List.any_cons]
  exact hgo []

end Words

section Border

variable {c : Char}

/-- Whether the letters on both sides of a character do not meet one another. -/
structure IsCaseBorder (c : Char) : Prop where
  isLower : IsLower c
  ignorable : inRanges caseIgnorableRanges c = false
  cased : inRanges casedRanges c = false

theorem isCaseBorder_comma : IsCaseBorder ',' := by
  refine ⟨isLower_of_lowerChar ?_ ?_ ?_, ?_, ?_⟩
  . decide
  . decide
  . decide +kernel
  . decide +kernel
  . decide +kernel

theorem meetsCased_append (h : IsCaseBorder c) (cs rest : List Char) :
    meetsCased (cs ++ c :: rest) = meetsCased cs := by
  induction cs with
  | nil => simp [meetsCased, h.ignorable, h.cased]
  | cons d cs ih =>
    unfold meetsCased at ih ⊢
    rw [List.cons_append]
    cases hd : inRanges caseIgnorableRanges d with
    | true => rw [List.dropWhile_cons_of_pos hd, List.dropWhile_cons_of_pos hd, ih]
    | false =>
      have hd : ¬ inRanges caseIgnorableRanges d = true := by simp [hd]
      rw [List.dropWhile_cons_of_neg hd, List.dropWhile_cons_of_neg hd]

theorem lowerWithin_append_right (h : IsCaseBorder c) (before : List Char) (d : Char)
    (after rest : List Char) :
    lowerWithin before d (after ++ c :: rest) = lowerWithin before d after := by
  rw [lowerWithin, meetsCased_append h, lowerWithin]

theorem lowerWithin_append_left (h : IsCaseBorder c) (before rest : List Char) (d : Char)
    (after : List Char) :
    lowerWithin (before ++ c :: rest) d after = lowerWithin before d after := by
  rw [lowerWithin, meetsCased_append h, lowerWithin]

theorem lower_go_append_left (h : IsCaseBorder c) (before rest cs : List Char) :
    lower.go (before ++ c :: rest) cs = lower.go before cs := by
  induction cs generalizing before with
  | nil => rfl
  | cons d cs ih =>
    rw [lower.go, lower.go, lowerWithin_append_left h, ← List.cons_append, ih]

theorem lower_append (h : IsCaseBorder c) (u v : List Char) :
    lower (u ++ c :: v) = lower u ++ c :: lower v := by
  have hgo : ∀ before, lower.go before (u ++ c :: v) = lower.go before u ++ c :: lower v := by
    induction u with
    | nil =>
      intro before
      have hright : lower.go (c :: before) v = lower v := lower_go_append_left h [] before v
      simp only [List.nil_append, lower.go, h.isLower before v, hright, List.singleton_append]
    | cons d u ih =>
      intro before
      rw [List.cons_append, lower.go, lower.go, lowerWithin_append_right h, ih, List.append_assoc]
  exact hgo []

end Border

end Automation.Text
