import Automation.Json.Printer
import Automation.Json.Token
import Automation.Proofs.Text.Glyphs

/-!
This module contains what the reader makes of written scalars and texts: each is cut off whole as
one token, whatever document goes on behind it. Of a text the lone halves that stand beside each
other are read as pairs.
-/

namespace Automation

namespace Json

def EndsValue (rest : List Char) : Prop :=
  ∀ c ∈ rest.head?, c = ',' ∨ c = '\n'

@[simp]
theorem endsValue_nil : EndsValue [] := by
  simp [EndsValue]

@[simp]
theorem endsValue_comma (rest : List Char) : EndsValue (',' :: rest) := by
  simp [EndsValue]

@[simp]
theorem endsValue_newLine (depth : Nat) (rest : List Char) :
    EndsValue (newLine depth ++ rest) := by
  simp [EndsValue, newLine]

section Numerals

variable {rest : List Char}

theorem digit?_of_isDigit {c : Char} (h : c.isDigit = true) :
    Text.digit? c = some (c.toNat - '0'.toNat) := by
  have hrange : 0x30 ≤ c.toNat ∧ c.toNat ≤ 0x30 + 9 := by
    simpa [Char.isDigit, UInt32.le_iff_toNat_le] using h
  simp [Text.digit?, Text.digitZeros, hrange]

theorem foldl_digits {cs : List Char} (h : ∀ c ∈ cs, c.isDigit = true) (n : Nat) :
    cs.foldl (fun n c => 10 * n + (Text.digit? c).getD 0) n = Nat.ofDigitChars 10 cs n := by
  induction cs generalizing n with
  | nil => rfl
  | cons c cs ih =>
    have hc := digit?_of_isDigit (h c (List.mem_cons_self ..))
    rw [List.foldl_cons, ih (fun d hd => h d (List.mem_cons_of_mem _ hd)), hc,
      Nat.ofDigitChars_cons]
    rfl

theorem isDigit_of_mem {n : Nat} {c : Char} (h : c ∈ Nat.toDigits 10 n) : c.isDigit = true :=
  Nat.isDigit_of_mem_toDigits (by decide) (by decide) h

theorem digitsValue_toDigits (n : Nat) : Text.digitsValue (Nat.toDigits 10 n) = n := by
  unfold Text.digitsValue
  rw [foldl_digits fun c hc => isDigit_of_mem hc]
  exact Nat.ofDigitChars_ten_toDigits

theorem toDigits_eq_cons (n : Nat) :
    ∃ d ds, Nat.toDigits 10 n = d :: ds ∧ d.isDigit = true ∧ (n ≠ 0 → d ≠ '0') := by
  induction n using Nat.strongRecOn with
  | ind n ih =>
    by_cases hn : n < 10
    . refine ⟨n.digitChar, [], Nat.toDigits_of_lt_base hn, by simpa using hn, ?_⟩
      intro hzero
      simpa using hzero
    . obtain ⟨d, ds, hdigits, hdigit, hd⟩ := ih (n / 10) (by omega)
      refine ⟨d, ds ++ [(n % 10).digitChar], ?_, hdigit, ?_⟩
      . rw [Nat.toDigits_of_base_le (by decide) (by omega), hdigits]
        rfl
      . intro _
        exact hd (by omega)

theorem head_not_isDigit (h : EndsValue rest) : ∀ c ∈ rest.head?, c.isDigit = false := by
  intro c hc
  rcases h c hc with rfl | rfl <;> decide

theorem takePlainDigits_append {ds : List Char} (hds : ∀ c ∈ ds, c.isDigit = true)
    (hrest : ∀ c ∈ rest.head?, c.isDigit = false) :
    takePlainDigits (ds ++ rest) = (ds, rest) := by
  unfold takePlainDigits
  rw [List.takeWhile_append_of_pos hds, List.dropWhile_append_of_pos hds]
  cases rest with
  | nil => simp
  | cons c rest => simp [hrest c rfl]

theorem takeFraction_of_endsValue (h : EndsValue rest) : takeFraction rest = ([], rest) := by
  cases rest with
  | nil => rfl
  | cons c rest => rcases h c rfl with rfl | rfl <;> rfl

theorem takeExponent_of_endsValue (h : EndsValue rest) : takeExponent rest = (none, rest) := by
  cases rest with
  | nil => rfl
  | cons c rest => rcases h c rfl with rfl | rfl <;> rfl

theorem takeWhole_toDigits (n : Nat) (hrest : ∀ c ∈ rest.head?, c.isDigit = false) :
    takeWhole (Nat.toDigits 10 n ++ rest) = (Nat.toDigits 10 n, rest) := by
  have htake := takePlainDigits_append (fun c hc => isDigit_of_mem (n := n) hc) hrest
  by_cases hn : n = 0
  . subst hn
    rfl
  . obtain ⟨d, ds, hdigits, _, hd⟩ := toDigits_eq_cons n
    rw [hdigits, List.cons_append] at htake ⊢
    rw [takeWhole, htake]
    intro cs heq
    injection heq with hzero _
    exact hd hn hzero

theorem length_toDigits_le {n width : Nat} (hwidth : 0 < width) (hn : n < tenTo width) :
    (Nat.toDigits 10 n).length ≤ width := by
  rw [tenTo, Nat.pow_eq] at hn
  rwa [Nat.length_toDigits_le_iff (by decide) hwidth]

theorem takeNumber_toDigits {n : Nat} (negative : Bool) (hn : n < tenTo Text.maxDigits)
    (h : EndsValue rest) :
    takeNumber negative (Nat.toDigits 10 n ++ rest) =
      some (.scalar (.int (if negative then -n else n)), rest) := by
  have hlength := length_toDigits_le (by decide) hn
  have hempty : (Nat.toDigits 10 n).isEmpty = false := by
    simp [Nat.toDigits_ne_nil]
  unfold takeNumber
  rw [takeWhole_toDigits n (head_not_isDigit h)]
  simp [hempty, takeFraction_of_endsValue h, takeExponent_of_endsValue h, digitsValue_toDigits,
    Nat.not_lt.2 hlength]

theorem toList_toString_natCast (n : Nat) : (toString (n : Int)).toList = Nat.toDigits 10 n := by
  change (Nat.repr n).toList = _
  rw [Nat.toList_repr]

theorem toList_toString_neg {n : Nat} (hn : 0 < n) :
    (toString (-n : Int)).toList = '-' :: Nat.toDigits 10 n := by
  obtain ⟨m, rfl⟩ := Nat.exists_eq_succ_of_ne_zero (Nat.ne_of_gt hn)
  change ("-" ++ Nat.repr (m + 1)).toList = _
  rw [String.toList_append, Nat.toList_repr]
  rfl

theorem takeWord_digit {d : Char} (hd : d.isDigit = true) (cs : List Char) :
    takeWord (d :: cs) = none := by
  have hne : ∀ c : Char, c.isDigit = false → c ≠ d := by
    rintro c hc rfl
    simp [hd] at hc
  simp [takeWord, wordValues, List.isPrefixOf, hne]

theorem takeToken_digit {d : Char} (hd : d.isDigit = true) (cs : List Char) :
    takeToken (d :: cs) = takeNumber false (d :: cs) := by
  have hne : ∀ c : Char, c.isDigit = false → d ≠ c := by
    rintro c hc rfl
    simp [hd] at hc
  rw [takeToken]
  . rw [takeWord_digit hd]
    rfl
  all_goals
    intro cs' heq
    injection heq with heq _
    exact hne _ (by decide) heq

theorem takeToken_int {n : Int} (hn : n.natAbs < tenTo Text.maxDigits) (h : EndsValue rest) :
    takeToken (writeScalar (.int n) ++ rest) = some (.scalar (.int n), rest) := by
  change takeToken ((toString n).toList ++ rest) = _
  rcases Int.natAbs_eq n with heq | heq
  . rw [heq, toList_toString_natCast]
    have hnumber := takeNumber_toDigits false hn h
    obtain ⟨d, ds, hdigits, hd, _⟩ := toDigits_eq_cons n.natAbs
    rw [hdigits, List.cons_append] at hnumber ⊢
    rw [takeToken_digit hd, hnumber]
    rfl
  . have hnumber := takeNumber_toDigits true hn h
    by_cases hzero : n = 0
    . subst hzero
      exact takeNumber_toDigits false hn h
    . rw [heq, toList_toString_neg (Int.natAbs_pos.2 hzero), List.cons_append, takeToken]
      obtain ⟨d, ds, hdigits, hd, _⟩ := toDigits_eq_cons n.natAbs
      have hword : takeWord ('-' :: (Nat.toDigits 10 n.natAbs ++ rest)) = none := by
        have hne : 'I' ≠ d := by
          rintro rfl
          cases hd
        simp [takeWord, wordValues, List.isPrefixOf, hdigits, hne]
      rw [hword, hnumber]
      rfl

def isTenths (x : Binary64) : Bool :=
  match x.text with
  | [a, '.', b] =>
    a.isDigit && b.isDigit && x.isFinite &&
      Binary64.ofDecimal false (Text.digitsValue [a, b]) (-1) == x
  | _ => false

theorem takeToken_tenths {x : Binary64} (hx : isTenths x = true) (h : EndsValue rest) :
    takeToken (writeScalar (.real x) ++ rest) = some (.scalar (.real x), rest) := by
  unfold isTenths at hx
  split at hx
  . rename_i a b htext
    simp only [Bool.and_eq_true, beq_iff_eq] at hx
    obtain ⟨⟨⟨ha, hb⟩, hfinite⟩, hdecimal⟩ := hx
    have hwrite : writeScalar (.real x) = [a, '.', b] := by
      cases x with
      | finite negative m e => exact htext
      | infinite => cases hfinite
      | undefined => cases hfinite
    have hrest := head_not_isDigit h
    have hwhole : takeWhole (a :: '.' :: b :: rest) = ([a], '.' :: b :: rest) := by
      by_cases hzero : a = '0'
      . rw [hzero]
        rfl
      . rw [takeWhole]
        . change takePlainDigits ([a] ++ '.' :: b :: rest) = _
          exact takePlainDigits_append (by simpa using ha) (by simp)
        . intro cs heq
          injection heq with heq _
          exact hzero heq
    have hfraction : takeFraction ('.' :: b :: rest) = ([b], rest) := by
      have htake : takePlainDigits ([b] ++ rest) = ([b], rest) :=
        takePlainDigits_append (by simpa using hb) hrest
      rw [List.singleton_append] at htake
      simp [takeFraction, htake]
    rw [hwrite, List.cons_append, takeToken_digit ha]
    unfold takeNumber
    simp [hwhole, hfraction, takeExponent_of_endsValue h, hdecimal]
  . cases hx

end Numerals

theorem takeToken_null (rest : List Char) :
    takeToken (writeScalar .null ++ rest) = some (.scalar .null, rest) := by
  simp [writeScalar, takeToken, takeWord, wordValues]

theorem takeToken_bool (b : Bool) (rest : List Char) :
    takeToken (writeScalar (.bool b) ++ rest) = some (.scalar (.bool b), rest) := by
  cases b <;> simp [writeScalar, takeToken, takeWord, wordValues]

section Texts

variable {found : List Nat} {rest : List Char}

def unitsOf (c : Char) : List Nat :=
  if c.toNat < 0x10000 then [c.toNat]
  else [0xD800 + (c.toNat - 0x10000) / 0x400, 0xDC00 + (c.toNat - 0x10000) % 0x400]

theorem hexValue?_hexDigit {n : Nat} (h : n < 16) : hexValue? (Text.hexDigit n) = some n := by
  have hall : ∀ n : Fin 16, hexValue? (Text.hexDigit n) = some n.1 := by
    decide
  exact hall ⟨n, h⟩

theorem takeUnits_unitEscape {unit : Nat} (h : unit < 0x10000) :
    takeUnits found (unitEscape unit ++ rest) = takeUnits (unit :: found) rest := by
  have hunit : hexUnit? (Text.hexDigit (unit / 16 / 16 / 16 % 16))
      (Text.hexDigit (unit / 16 / 16 % 16)) (Text.hexDigit (unit / 16 % 16))
      (Text.hexDigit (unit % 16)) = some unit := by
    unfold hexUnit?
    repeat rw [hexValue?_hexDigit (Nat.mod_lt _ (by decide))]
    simp only [Option.bind_eq_bind, Option.bind_some, Option.pure_def, Option.some.injEq]
    omega
  simp [unitEscape, Text.hexDigits, takeUnits, hunit]

theorem takeUnits_plain {c : Char} (hquote : c ≠ '"') (hslash : c ≠ '\\') (hlow : ¬c.toNat < 0x20) :
    takeUnits found (c :: rest) = takeUnits (c.toNat :: found) rest := by
  rw [takeUnits]
  . simp [hslash, hlow]
  all_goals simp_all

theorem takeUnits_writeAscii {c : Char} (hquote : c ≠ '"') (hslash : c ≠ '\\')
    (hlow : ¬c.toNat < 0x20) :
    takeUnits found (writeAscii c ++ rest) = takeUnits ((unitsOf c).reverse ++ found) rest := by
  unfold writeAscii unitsOf
  have hbound : c.toNat < 0x110000 := by
    have := c.valid
    simp only [UInt32.isValidChar, Nat.isValidChar] at this
    change c.val.toNat < _
    omega
  split
  . rw [if_pos (by omega)]
    exact takeUnits_plain hquote hslash hlow
  . split
    . exact takeUnits_unitEscape (by omega)
    . rw [List.append_assoc, takeUnits_unitEscape (by omega), takeUnits_unitEscape (by omega)]
      rfl

theorem takeUnits_writeChar (c : Char) :
    takeUnits found (writeCharWith writeAscii c ++ rest) =
      takeUnits ((unitsOf c).reverse ++ found) rest := by
  unfold writeCharWith
  split
  . subst_vars
    rfl
  split
  . subst_vars
    rfl
  split
  . subst_vars
    rfl
  split
  . subst_vars
    rfl
  split
  . subst_vars
    rfl
  split
  . subst_vars
    rfl
  split
  . subst_vars
    rfl
  split
  . rw [takeUnits_unitEscape (by omega)]
    simp [unitsOf, show c.toNat < 0x10000 by omega]
  . apply takeUnits_writeAscii <;> assumption

def glyphUnits : Glyph → List Nat
  | .char c => unitsOf c
  | .half h => [h.unit]

theorem takeUnits_writeGlyph (g : Glyph) :
    takeUnits found (writeGlyph g ++ rest) = takeUnits ((glyphUnits g).reverse ++ found) rest := by
  cases g with
  | char c => exact takeUnits_writeChar c
  | half h =>
    have hplace := h.place.isLt
    exact takeUnits_unitEscape (by simp only [LoneHalf.unit]; omega)

theorem takeUnits_writeGlyphs (gs : List Glyph) :
    takeUnits found (gs.flatMap writeGlyph ++ '"' :: rest) =
      some (found.reverse ++ gs.flatMap glyphUnits, rest) := by
  induction gs generalizing found with
  | nil => simp [takeUnits]
  | cons g gs ih =>
    rw [List.flatMap_cons, List.append_assoc, takeUnits_writeGlyph, ih]
    simp

theorem ofUnit_toNat (c : Char) : Glyph.ofUnit c.toNat = .char c := by
  have hvalid := c.valid
  simp only [UInt32.isValidChar, Nat.isValidChar] at hvalid
  unfold Glyph.ofUnit
  rw [dif_neg]
  . rw [Char.ofNat_toNat]
  . change ¬(_ ≤ c.val.toNat ∧ c.val.toNat < _)
    omega

theorem joinUnits_cons {unit : Nat} (h : isHighHalf unit = false) (units : List Nat) :
    joinUnits (unit :: units) = Glyph.ofUnit unit :: joinUnits units := by
  cases units with
  | nil => rfl
  | cons low units => simp [joinUnits, h]

theorem joinUnits_unitsOf_append (c : Char) (units : List Nat) :
    joinUnits (unitsOf c ++ units) = .char c :: joinUnits units := by
  -- No character is a half, so the units of two characters never make a pair.
  have hvalid := c.valid
  simp only [UInt32.isValidChar, Nat.isValidChar] at hvalid
  change c.toNat < _ ∨ _ < c.toNat ∧ c.toNat < _ at hvalid
  unfold unitsOf
  split
  . have hhigh : isHighHalf c.toNat = false := by
      simp only [isHighHalf, Bool.and_eq_false_iff, decide_eq_false_iff_not]
      omega
    rw [List.singleton_append, joinUnits_cons hhigh, ofUnit_toNat]
  . have hpair : isHighHalf (0xD800 + (c.toNat - 0x10000) / 0x400) = true ∧
        isLowHalf (0xDC00 + (c.toNat - 0x10000) % 0x400) = true := by
      simp only [isHighHalf, isLowHalf, Bool.and_eq_true, decide_eq_true_eq]
      omega
    have hcode : 0x10000 + 0x400 * (0xD800 + (c.toNat - 0x10000) / 0x400 - 0xD800) +
        (0xDC00 + (c.toNat - 0x10000) % 0x400 - 0xDC00) = c.toNat := by
      omega
    rw [List.cons_append, List.singleton_append, joinUnits]
    simp only [hpair, Bool.and_self, if_true, hcode, Char.ofNat_toNat]

theorem joinUnits_cons_unitsOf (unit : Nat) (c : Char) (units : List Nat) :
    joinUnits (unit :: (unitsOf c ++ units)) =
      Glyph.ofUnit unit :: joinUnits (unitsOf c ++ units) := by
  have hvalid := c.valid
  simp only [UInt32.isValidChar, Nat.isValidChar] at hvalid
  change c.toNat < _ ∨ _ < c.toNat ∧ c.toNat < _ at hvalid
  unfold unitsOf
  split
  . have hlow : isLowHalf c.toNat = false := by
      simp only [isLowHalf, Bool.and_eq_false_iff, decide_eq_false_iff_not]
      omega
    simp [joinUnits, hlow]
  . have hlow : isLowHalf (0xD800 + (c.toNat - 0x10000) / 0x400) = false := by
      simp only [isLowHalf, Bool.and_eq_false_iff, decide_eq_false_iff_not]
      omega
    rw [List.cons_append, joinUnits, hlow, Bool.and_false]
    rfl

theorem joinUnits_append_unitsOf (before : List Nat) (c : Char) (units : List Nat) :
    joinUnits (before ++ (unitsOf c ++ units)) =
      joinUnits before ++ .char c :: joinUnits units := by
  induction before using joinUnits.induct with
  | case1 => exact joinUnits_unitsOf_append c units
  | case2 unit =>
    rw [List.singleton_append, joinUnits_cons_unitsOf, joinUnits_unitsOf_append]
    rfl
  | case3 high low before hpair ih =>
    rw [List.cons_append, List.cons_append, joinUnits, joinUnits, if_pos hpair, if_pos hpair, ih]
    rfl
  | case4 high low before hpair ih =>
    rw [List.cons_append] at ih
    rw [List.cons_append, List.cons_append, joinUnits, joinUnits, if_neg hpair, if_neg hpair, ih]
    rfl

theorem joinUnits_chars_append (cs : List Char) (units : List Nat) :
    joinUnits (cs.flatMap unitsOf ++ units) = cs.map .char ++ joinUnits units := by
  induction cs with
  | nil => rfl
  | cons c cs ih =>
    rw [List.flatMap_cons, List.append_assoc, joinUnits_unitsOf_append, ih]
    rfl

theorem joinUnits_append_chars (units : List Nat) (cs : List Char) :
    joinUnits (units ++ cs.flatMap unitsOf) = joinUnits units ++ cs.map .char := by
  cases cs with
  | nil => simp
  | cons c cs =>
    have hchars := joinUnits_chars_append cs []
    rw [List.append_nil] at hchars
    rw [List.flatMap_cons, joinUnits_append_unitsOf, hchars]
    simp [joinUnits]

theorem flatMap_glyphUnits_chars (cs : List Char) :
    (cs.map Glyph.char).flatMap glyphUnits = cs.flatMap unitsOf :=
  List.flatMap_map ..

end Texts

end Json

namespace Text

open Json (joinUnits glyphUnits flatMap_glyphUnits_chars)

/-- The text as it is read again: lone halves that stand beside each other are one character. -/
def paired (t : Text) : Text :=
  ofGlyphs (joinUnits (t.glyphs.flatMap glyphUnits))

theorem glyphs_paired (t : Text) :
    t.paired.glyphs = joinUnits (t.glyphs.flatMap glyphUnits) :=
  glyphs_ofGlyphs _

theorem paired_whole_append (s : String) (t : Text) :
    (.whole s ++ t).paired = .whole s ++ t.paired := by
  apply eq_of_glyphs
  rw [glyphs_paired, glyphs_append, glyphs_append, glyphs_paired, List.flatMap_append]
  simp only [glyphs, flatMap_glyphUnits_chars, Json.joinUnits_chars_append]

theorem paired_append_whole (t : Text) (s : String) :
    (t ++ .whole s).paired = t.paired ++ .whole s := by
  apply eq_of_glyphs
  rw [glyphs_paired, glyphs_append, glyphs_append, glyphs_paired, List.flatMap_append]
  simp only [glyphs, flatMap_glyphUnits_chars, Json.joinUnits_append_chars]

@[simp]
theorem paired_whole (s : String) : (whole s).paired = .whole s := by
  have happend := paired_append_whole "" s
  rwa [whole_append, String.empty_append] at happend

end Text

namespace Json

theorem takeToken_text (t : Text) (rest : List Char) :
    takeToken (writeText t ++ rest) = some (.text t.paired, rest) := by
  simp only [writeText, List.cons_append, List.append_assoc, List.nil_append, takeToken,
    takeUnits_writeGlyphs, Option.map_some, List.reverse_nil, Text.paired]

end Json

end Automation
