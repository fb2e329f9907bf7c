import Mathlib.Data.Nat.Digits.Defs
import Automation.Proofs.Description.Condition
import Automation.Proofs.Description.First
import Automation.Proofs.Description.Numeral

/-!
This module contains the schedule of a description, told by the phrases that ask for one and not by
the searches for them: a phrase that counts units of time goes before one that names a unit, and
this one before the words that stand for a unit. Of the phrases of one kind the first is taken.
-/

namespace Automation.Description

open Text

inductive TimeUnit where
  | minute
  | hour
  | day
  | week
  deriving Repr, DecidableEq

namespace TimeUnit

def word : TimeUnit → String
  | minute => "minute"
  | hour => "hour"
  | day => "day"
  | week => "week"

def seconds : TimeUnit → Nat
  | minute => 60
  | hour => 3600
  | day => 86400
  | week => 604800

end TimeUnit

def numeral (digits : List Char) : Nat :=
  Nat.ofDigits 10 (digits.reverse.map fun c => (digit? c).getD 0)

/-- Whether a phrase counts units of time, and with which digits, as in "every 15 minutes". -/
inductive CountsUnits : List Char → List Char × Nat → Prop
  | intro {blanks digits gap : List Char} {ending : String} (unit : TimeUnit) :
      IsBlankRun blanks → digits ≠ [] → (∀ c ∈ digits, isDigit c = true) → IsBlankRun gap →
      ending = "" ∨ ending = "s" →
      CountsUnits
        ("every".toList ++ (blanks ++ (digits ++ (gap ++ (unit.word ++ ending).toList))))
        (digits, unit.seconds)

/-- Whether a phrase names a unit of time, as in "every day". -/
inductive NamesUnit : List Char → Nat → Prop
  | intro {blanks : List Char} (unit : TimeUnit) :
      IsBlankRun blanks → NamesUnit ("every".toList ++ (blanks ++ unit.word.toList)) unit.seconds

inductive AsksPlainly (cs : List Char) : Option Schedule → Prop
  | named {seconds : Nat} : TellsFirst NamesUnit cs seconds → AsksPlainly cs (some ⟨seconds⟩)
  | hourly : (∀ seconds, ¬ TellsFirst NamesUnit cs seconds) → HasWord "hourly" cs →
      AsksPlainly cs (some ⟨3600⟩)
  | daily : (∀ seconds, ¬ TellsFirst NamesUnit cs seconds) → ¬ HasWord "hourly" cs →
      HasWord "daily" cs → AsksPlainly cs (some ⟨86400⟩)
  | weekly : (∀ seconds, ¬ TellsFirst NamesUnit cs seconds) → ¬ HasWord "hourly" cs →
      ¬ HasWord "daily" cs → HasWord "weekly" cs → AsksPlainly cs (some ⟨604800⟩)
  | never : (∀ seconds, ¬ TellsFirst NamesUnit cs seconds) → ¬ HasWord "hourly" cs →
      ¬ HasWord "daily" cs → ¬ HasWord "weekly" cs → AsksPlainly cs none

/-- What a text asks for. Where the first count is zero, no later one is looked at. -/
inductive Asks (cs : List Char) : Option Schedule → Prop
  | counted {digits : List Char} {seconds : Nat} : TellsFirst CountsUnits cs (digits, seconds) →
      0 < numeral digits → Asks cs (some ⟨numeral digits * seconds⟩)
  | plain {asked : Option Schedule} :
      (∀ digits seconds, TellsFirst CountsUnits cs (digits, seconds) → numeral digits = 0) →
      AsksPlainly cs asked → Asks cs asked

section Units

variable {cs : List Char}

theorem exists_of_afterAnyWord? {words : List (List Char)} {rest : List Char}
    (h : afterAnyWord? words cs = some rest) : ∃ w ∈ words, StartsWithWord w cs := by
  obtain ⟨w, hw, hrest⟩ := List.exists_of_findSome?_eq_some h
  obtain ⟨heq, hafter⟩ := afterWord?_eq_some_iff.1 hrest
  exact ⟨w, hw, rest, heq.symm, hafter⟩

theorem mem_timeUnits_iff {u : String × Nat} :
    u ∈ timeUnits ↔ ∃ unit : TimeUnit, u = (unit.word, unit.seconds) := by
  constructor
  . intro h
    simp only [timeUnits, List.mem_cons, List.not_mem_nil, or_false] at h
    rcases h with rfl | rfl | rfl | rfl
    . exact ⟨.minute, rfl⟩
    . exact ⟨.hour, rfl⟩
    . exact ⟨.day, rfl⟩
    . exact ⟨.week, rfl⟩
  . rintro ⟨unit, rfl⟩
    cases unit <;> decide

theorem findSome?_timeUnits_iff (words : String → List (List Char)) {g : Nat → β} {b : β}
    (hplain : ∀ u ∈ timeUnits, ∀ w ∈ words u.1, IsPlain w)
    (hapart : ∀ u ∈ timeUnits, ∀ v ∈ timeUnits, ∀ w ∈ words u.1, w ∈ words v.1 → u = v) :
    timeUnits.findSome? (fun (unit, seconds) =>
        (afterAnyWord? (words unit) cs).map fun _ => g seconds) = some b ↔
      ∃ unit : TimeUnit, g unit.seconds = b ∧ ∃ w ∈ words unit.word, StartsWithWord w cs := by
  have hread : ∀ {b}, timeUnits.findSome? (fun (unit, seconds) =>
      (afterAnyWord? (words unit) cs).map fun _ => g seconds) = some b →
      ∃ unit : TimeUnit, g unit.seconds = b ∧ ∃ w ∈ words unit.word, StartsWithWord w cs := by
    intro b h
    obtain ⟨u, hu, hfound⟩ := List.exists_of_findSome?_eq_some h
    obtain ⟨rest, hrest, hb⟩ := Option.map_eq_some_iff.1 hfound
    obtain ⟨unit, rfl⟩ := mem_timeUnits_iff.1 hu
    exact ⟨unit, hb, exists_of_afterAnyWord? hrest⟩
  refine ⟨hread, ?_⟩
  rintro ⟨unit, rfl, w, hw, hstarts⟩
  have hunit := mem_timeUnits_iff.2 ⟨unit, rfl⟩
  cases hfound : timeUnits.findSome? fun (unit, seconds) =>
      (afterAnyWord? (words unit) cs).map fun _ => g seconds with
  | none =>
    rw [List.findSome?_eq_none_iff] at hfound
    have hnone := Option.map_eq_none_iff.1 (hfound _ hunit)
    exact absurd hstarts (afterAnyWord?_eq_none_iff.1 hnone w hw)
  | some b' =>
    obtain ⟨unit', rfl, w', hw', hstarts'⟩ := hread hfound
    have hunit' := mem_timeUnits_iff.2 ⟨unit', rfl⟩
    obtain ⟨after, heq, hafter⟩ := hstarts
    obtain ⟨after', heq', hafter'⟩ := hstarts'
    obtain rfl := (hplain _ hunit w hw).eq_of_append (hplain _ hunit' w' hw')
      (heq.symm.trans heq') hafter hafter'
    rw [(Prod.mk.inj (hapart _ hunit _ hunit' w hw hw')).2]

theorem findSome?_counted_iff {g : Nat → β} {b : β} :
    timeUnits.findSome? (fun (unit, seconds) =>
        (afterAnyWord? [(unit ++ "s").toList, unit.toList] cs).map fun _ => g seconds) = some b ↔
      ∃ unit : TimeUnit, g unit.seconds = b ∧ ∃ ending, (ending = "" ∨ ending = "s") ∧
        StartsWithWord (unit.word ++ ending).toList cs := by
  have hplain : ∀ u ∈ timeUnits, ∀ w ∈ [(u.1 ++ "s").toList, u.1.toList], IsPlain w := by
    have hall : ∀ u ∈ timeUnits, ∀ w ∈ [(u.1 ++ "s").toList, u.1.toList],
        w ≠ [] ∧ w.all isWord = true := by
      decide +kernel
    exact fun u hu w hw => isPlain_of_all (hall u hu w hw).1 (hall u hu w hw).2
  rw [findSome?_timeUnits_iff (fun unit => [(unit ++ "s").toList, unit.toList]) hplain (by decide)]
  refine exists_congr fun unit => and_congr_right fun _ => ?_
  constructor
  . rintro ⟨w, hw, hstarts⟩
    simp only [List.mem_cons, List.not_mem_nil, or_false] at hw
    rcases hw with rfl | rfl
    . exact ⟨"s", .inr rfl, hstarts⟩
    . exact ⟨"", .inl rfl, by rwa [String.append_empty]⟩
  . rintro ⟨ending, rfl | rfl, hstarts⟩
    . rw [String.append_empty] at hstarts
      exact ⟨_, by simp, hstarts⟩
    . exact ⟨_, by simp, hstarts⟩

theorem findSome?_named_iff {seconds : Nat} :
    timeUnits.findSome? (fun (unit, seconds) =>
        (afterWord? unit.toList cs).map fun _ => seconds) = some seconds ↔
      ∃ unit : TimeUnit, unit.seconds = seconds ∧ StartsWithWord unit.word.toList cs := by
  have hplain : ∀ u ∈ timeUnits, ∀ w ∈ [u.1.toList], IsPlain w := by
    have hall : ∀ u ∈ timeUnits, ∀ w ∈ [u.1.toList], w ≠ [] ∧ w.all isWord = true := by
      decide +kernel
    exact fun u hu w hw => isPlain_of_all (hall u hu w hw).1 (hall u hu w hw).2
  have hread : timeUnits.findSome? (fun (unit, seconds) =>
      (afterAnyWord? [unit.toList] cs).map fun _ => seconds) = some seconds ↔
      ∃ unit : TimeUnit, unit.seconds = seconds ∧
        ∃ w ∈ [unit.word.toList], StartsWithWord w cs :=
    findSome?_timeUnits_iff (fun unit => [unit.toList]) (g := id) hplain (by decide)
  simpa [afterAnyWord?] using hread

end Units

section Readers

variable {cs digits : List Char}

theorem exists_of_countedPhrase? {b : List Char × Nat} (h : countedPhrase? cs = some b) :
    ∃ digits rest, cs = "every ".toList ++ (digits ++ ' ' :: rest) ∧ digits ≠ [] ∧
      ∀ c ∈ digits, isDigit c = true := by
  obtain ⟨rest, hevery, hrest⟩ := Option.bind_eq_some_iff.1 h
  obtain rfl := after?_eq_some_iff.1 hevery
  dsimp only at hrest
  split at hrest
  . cases hrest
  . rename_i hne
    obtain ⟨after, hspace, -⟩ := Option.bind_eq_some_iff.1 hrest
    have hdrop := after?_eq_some_iff.1 hspace
    refine ⟨rest.takeWhile isDigit, after, ?_, by simpa using hne, ?_⟩
    . rw [← List.singleton_append, hdrop, List.takeWhile_append_dropWhile]
    . exact List.all_eq_true.1 List.all_takeWhile

theorem isReaderOf_countedPhrase? : IsReaderOf countedPhrase? CountsUnits := by
  constructor
  . rintro phrase b ⟨⟩
    simp
  . intro rest b hspaced
    constructor
    . intro h
      obtain ⟨digits, cs, rfl, hne, hdigits⟩ := exists_of_countedPhrase? h
      rw [countedPhrase?_every hne hdigits, findSome?_counted_iff] at h
      obtain ⟨unit, rfl, ending, hending, after, rfl, hafter⟩ := h
      refine ⟨_, after, .intro unit isBlankRun_space hne hdigits isBlankRun_space hending, ?_,
        hafter⟩
      simp
    . rintro ⟨_, after, ⟨unit, hblanks, hne, hdigits, hgap, hending⟩, rfl, hafter⟩
      simp only [List.append_assoc] at hspaced ⊢
      -- In a normal form the blanks of a phrase are single spaces, which is all that is read.
      obtain rfl := eq_space_of_isBlankRun hspaced hblanks
      rw [← List.append_assoc, ← List.append_assoc] at hspaced
      obtain rfl := eq_space_of_isBlankRun hspaced hgap
      refine (countedPhrase?_every hne hdigits _).trans (findSome?_counted_iff.2 ?_)
      exact ⟨unit, rfl, _, hending, after, rfl, hafter⟩

theorem afterWord?_append_append (u word cs : List Char) :
    afterWord? (u ++ word) (u ++ cs) = afterWord? word cs := by
  ext rest
  rw [afterWord?_eq_some_iff, afterWord?_eq_some_iff, List.append_assoc, List.append_cancel_left_eq]

theorem uncountedPhrase?_every (cs : List Char) :
    uncountedPhrase? ("every ".toList ++ cs) =
      timeUnits.findSome? fun (unit, seconds) =>
        (afterWord? unit.toList cs).map fun _ => seconds := by
  rw [uncountedPhrase?]
  congr 1
  funext ⟨unit, seconds⟩
  dsimp only
  rw [String.toList_append, afterWord?_append_append]

theorem exists_of_uncountedPhrase? {b : Nat} (h : uncountedPhrase? cs = some b) :
    ∃ rest, cs = "every ".toList ++ rest := by
  obtain ⟨u, -, hfound⟩ := List.exists_of_findSome?_eq_some h
  obtain ⟨after, hafter, -⟩ := Option.map_eq_some_iff.1 hfound
  obtain ⟨rfl, -⟩ := afterWord?_eq_some_iff.1 hafter
  exact ⟨u.1.toList ++ after, by rw [String.toList_append, List.append_assoc]⟩

theorem isReaderOf_uncountedPhrase? : IsReaderOf uncountedPhrase? NamesUnit := by
  constructor
  . rintro phrase b ⟨⟩
    simp
  . intro rest b hspaced
    constructor
    . intro h
      obtain ⟨cs, rfl⟩ := exists_of_uncountedPhrase? h
      rw [uncountedPhrase?_every, findSome?_named_iff] at h
      obtain ⟨unit, rfl, after, rfl, hafter⟩ := h
      refine ⟨_, after, .intro unit isBlankRun_space, ?_, hafter⟩
      simp
    . rintro ⟨_, after, ⟨unit, hblanks⟩, rfl, hafter⟩
      simp only [List.append_assoc] at hspaced ⊢
      obtain rfl := eq_space_of_isBlankRun hspaced hblanks
      refine (uncountedPhrase?_every _).trans (findSome?_named_iff.2 ?_)
      exact ⟨unit, rfl, after, rfl, hafter⟩

end Readers

section Asked

variable {cs : List Char} {asked : Option Schedule}

theorem search_uncountedPhrase?_eq_none (hspaced : IsSpaced cs)
    (h : ∀ seconds, ¬ TellsFirst NamesUnit cs seconds) : search uncountedPhrase? cs = none := by
  rw [Option.eq_none_iff_forall_ne_some]
  intro seconds hfound
  exact h seconds ((isReaderOf_uncountedPhrase?.search_eq_some_iff hspaced).1 hfound)

theorem plainSchedule?_of_words (h : search uncountedPhrase? cs = none) :
    plainSchedule? cs =
      if (search (afterWord? "hourly".toList) cs).isSome then some ⟨3600⟩
      else if (search (afterWord? "daily".toList) cs).isSome then some ⟨86400⟩
      else if (search (afterWord? "weekly".toList) cs).isSome then some ⟨604800⟩
      else none := by
  rw [plainSchedule?, h, Option.none_or, scheduleWords]
  simp only [List.findSome?_cons, List.findSome?_nil]
  cases search (afterWord? "hourly".toList) cs with
  | some _ => rfl
  | none =>
    cases search (afterWord? "daily".toList) cs with
    | some _ => rfl
    | none => cases search (afterWord? "weekly".toList) cs <;> rfl

theorem plainSchedule?_eq (hspaced : IsSpaced cs) (h : AsksPlainly cs asked) :
    plainSchedule? cs = asked := by
  have hhourly : (search (afterWord? "hourly".toList) cs).isSome = true ↔ HasWord "hourly" cs :=
    search_afterWord?_iff (by decide) hspaced
  have hdaily : (search (afterWord? "daily".toList) cs).isSome = true ↔ HasWord "daily" cs :=
    search_afterWord?_iff (by decide) hspaced
  have hweekly : (search (afterWord? "weekly".toList) cs).isSome = true ↔ HasWord "weekly" cs :=
    search_afterWord?_iff (by decide) hspaced
  cases h with
  | named hfirst =>
    rw [plainSchedule?, (isReaderOf_uncountedPhrase?.search_eq_some_iff hspaced).2 hfirst]
    rfl
  | hourly hno hh =>
    rw [plainSchedule?_of_words (search_uncountedPhrase?_eq_none hspaced hno),
      if_pos (hhourly.2 hh)]
  | daily hno hh hd =>
    rw [plainSchedule?_of_words (search_uncountedPhrase?_eq_none hspaced hno),
      if_neg (mt hhourly.1 hh), if_pos (hdaily.2 hd)]
  | weekly hno hh hd hw =>
    rw [plainSchedule?_of_words (search_uncountedPhrase?_eq_none hspaced hno),
      if_neg (mt hhourly.1 hh), if_neg (mt hdaily.1 hd), if_pos (hweekly.2 hw)]
  | never hno hh hd hw =>
    rw [plainSchedule?_of_words (search_uncountedPhrase?_eq_none hspaced hno),
      if_neg (mt hhourly.1 hh), if_neg (mt hdaily.1 hd), if_neg (mt hweekly.1 hw)]

theorem exists_asksPlainly (cs : List Char) : ∃ asked, AsksPlainly cs asked := by
  by_cases hname : ∃ seconds, TellsFirst NamesUnit cs seconds
  . obtain ⟨seconds, hfirst⟩ := hname
    exact ⟨_, .named hfirst⟩
  . rw [not_exists] at hname
    by_cases hhourly : HasWord "hourly" cs
    . exact ⟨_, .hourly hname hhourly⟩
    . by_cases hdaily : HasWord "daily" cs
      . exact ⟨_, .daily hname hhourly hdaily⟩
      . by_cases hweekly : HasWord "weekly" cs
        . exact ⟨_, .weekly hname hhourly hdaily hweekly⟩
        . exact ⟨_, .never hname hhourly hdaily hweekly⟩

theorem plainSchedule?_eq_iff (hspaced : IsSpaced cs) :
    plainSchedule? cs = asked ↔ AsksPlainly cs asked := by
  refine ⟨?_, plainSchedule?_eq hspaced⟩
  rintro rfl
  obtain ⟨asked, hasked⟩ := exists_asksPlainly cs
  rwa [plainSchedule?_eq hspaced hasked]

theorem digitsValue_eq (digits : List Char) : digitsValue digits = numeral digits := by
  rw [digitsValue, numeral, Nat.ofDigits_eq_foldr, List.foldr_map, List.foldr_reverse]
  congr 1
  funext n c
  exact Nat.add_comm _ _

theorem TimeUnit.seconds_pos (unit : TimeUnit) : 0 < unit.seconds := by
  cases unit <;> decide

theorem TimeUnit.dvd_seconds (unit : TimeUnit) : 60 ∣ unit.seconds := by
  cases unit <;> decide

theorem exists_unit_of_counts {digits : List Char} {seconds : Nat}
    (h : TellsFirst CountsUnits cs (digits, seconds)) :
    ∃ unit : TimeUnit, unit.seconds = seconds := by
  obtain ⟨before, ⟨⟨phrase, after, hphrase, -⟩, -⟩, -⟩ := h
  cases hphrase with
  | intro unit => exact ⟨unit, rfl⟩

theorem exists_unit_of_names {seconds : Nat} (h : TellsFirst NamesUnit cs seconds) :
    ∃ unit : TimeUnit, unit.seconds = seconds := by
  obtain ⟨before, ⟨⟨phrase, after, hphrase, -⟩, -⟩, -⟩ := h
  cases hphrase with
  | intro unit => exact ⟨unit, rfl⟩

theorem Asks.interval {s : Schedule} (h : Asks cs (some s)) : 0 < s.interval ∧ 60 ∣ s.interval := by
  cases h with
  | counted hfirst hpos =>
    obtain ⟨unit, rfl⟩ := exists_unit_of_counts hfirst
    exact ⟨Nat.mul_pos hpos unit.seconds_pos, unit.dvd_seconds.mul_left _⟩
  | plain _ h =>
    cases h with
    | named hfirst =>
      obtain ⟨unit, rfl⟩ := exists_unit_of_names hfirst
      exact ⟨unit.seconds_pos, unit.dvd_seconds⟩
    | hourly => decide
    | daily => decide
    | weekly => decide

theorem asks_iff_of_counts {digits : List Char} {seconds : Nat} (hspaced : IsSpaced cs)
    (hsearch : search countedPhrase? cs = some (digits, seconds)) :
    Asks cs asked ↔
      if numeral digits = 0 then AsksPlainly cs asked
      else asked = some ⟨numeral digits * seconds⟩ := by
  -- Only one phrase is the first, so the count that is read is the one that is told.
  have hiff : ∀ {b}, TellsFirst CountsUnits cs b ↔ b = (digits, seconds) := by
    intro b
    rw [← isReaderOf_countedPhrase?.search_eq_some_iff hspaced, hsearch, Option.some.injEq, eq_comm]
  constructor
  . rintro (⟨hfirst, hpos⟩ | ⟨hzero, hplain⟩)
    . cases hiff.1 hfirst
      rw [if_neg (Nat.ne_of_gt hpos)]
    . rwa [if_pos (hzero _ _ (hiff.2 rfl))]
  . split
    . rename_i hzero
      refine fun hplain => .plain (fun d s hfirst => ?_) hplain
      cases hiff.1 hfirst
      exact hzero
    . rename_i hne
      rintro rfl
      exact .counted (hiff.2 rfl) (Nat.pos_of_ne_zero hne)

theorem asks_iff_of_none (hspaced : IsSpaced cs) (hsearch : search countedPhrase? cs = none) :
    Asks cs asked ↔ AsksPlainly cs asked := by
  have hno : ∀ b, ¬ TellsFirst CountsUnits cs b := by
    intro b hfirst
    rw [← isReaderOf_countedPhrase?.search_eq_some_iff hspaced, hsearch] at hfirst
    cases hfirst
  refine ⟨?_, .plain fun d s hfirst => absurd hfirst (hno _)⟩
  rintro (⟨hfirst, -⟩ | ⟨-, hplain⟩)
  . exact absurd hfirst (hno _)
  . exact hplain

theorem scheduleOf_of_counts {digits : List Char} {seconds : Nat}
    (hsearch : search countedPhrase? cs = some (digits, seconds)) :
    scheduleOf cs =
      if maxDigits < digits.length then .error (.tooLong digits.length)
      else if numeral digits * seconds = 0 then .ok (plainSchedule? cs)
      else .ok (some ⟨numeral digits * seconds⟩) := by
  rw [scheduleOf, hsearch]
  dsimp only
  rw [digitsValue_eq]

theorem scheduleOf_asks (hspaced : IsSpaced cs) :
    (∃ digits seconds, TellsFirst CountsUnits cs (digits, seconds) ∧ maxDigits < digits.length ∧
      scheduleOf cs = .error (.tooLong digits.length)) ∨
    (∀ digits seconds, TellsFirst CountsUnits cs (digits, seconds) → digits.length ≤ maxDigits) ∧
      ∃ asked, scheduleOf cs = .ok asked ∧ ∀ asked', Asks cs asked' ↔ asked' = asked := by
  have hcounts : ∀ {b}, TellsFirst CountsUnits cs b ↔ search countedPhrase? cs = some b :=
    (isReaderOf_countedPhrase?.search_eq_some_iff hspaced).symm
  cases hsearch : search countedPhrase? cs with
  | none =>
    refine .inr ⟨fun digits seconds hfirst => ?_, plainSchedule? cs, ?_, fun asked' => ?_⟩
    . rw [hcounts, hsearch] at hfirst
      cases hfirst
    . rw [scheduleOf, hsearch]
    . rw [asks_iff_of_none hspaced hsearch, ← plainSchedule?_eq_iff hspaced, eq_comm]
  | some b =>
    obtain ⟨digits, seconds⟩ := b
    have hschedule := scheduleOf_of_counts hsearch
    by_cases hlong : maxDigits < digits.length
    . rw [if_pos hlong] at hschedule
      exact .inl ⟨digits, seconds, hcounts.2 hsearch, hlong, hschedule⟩
    . rw [if_neg hlong] at hschedule
      refine .inr ⟨fun d s hfirst => ?_, ?_⟩
      . rw [hcounts, hsearch] at hfirst
        cases hfirst
        exact Nat.le_of_not_lt hlong
      . by_cases hzero : numeral digits = 0
        . rw [if_pos (by rw [hzero, Nat.zero_mul])] at hschedule
          refine ⟨_, hschedule, fun asked' => ?_⟩
          rw [asks_iff_of_counts hspaced hsearch, if_pos hzero, ← plainSchedule?_eq_iff hspaced,
            eq_comm]
        . obtain ⟨unit, rfl⟩ := exists_unit_of_counts (hcounts.2 hsearch)
          rw [if_neg (Nat.mul_ne_zero hzero (Nat.ne_of_gt unit.seconds_pos))] at hschedule
          refine ⟨_, hschedule, fun asked' => ?_⟩
          rw [asks_iff_of_counts hspaced hsearch, if_neg hzero]

end Asked

/-- A description has the schedule that its normal form asks for, and none can be read just where
the first number that counts units of time has too many digits. -/
theorem schedule_asks (text : String) :
    (∀ asked, schedule text = .ok asked ↔
      Asks (normal text.toList) asked ∧ ∀ digits seconds,
        TellsFirst CountsUnits (normal text.toList) (digits, seconds) → digits.length ≤ 4300) ∧
    (∀ fault, schedule text = .error fault ↔ ∃ digits seconds,
      TellsFirst CountsUnits (normal text.toList) (digits, seconds) ∧ 4300 < digits.length ∧
        fault = .tooLong digits.length) ∧
    ∀ s, schedule text = .ok (some s) → 0 < s.interval ∧ 60 ∣ s.interval := by
  have hspaced := isSpaced_normal text.toList
  have hunique : ∀ {d s d' s'}, TellsFirst CountsUnits (normal text.toList) (d, s) →
      TellsFirst CountsUnits (normal text.toList) (d', s') → d = d' := by
    intro d s d' s' h h'
    rw [← isReaderOf_countedPhrase?.search_eq_some_iff hspaced] at h h'
    cases h.symm.trans h'
    rfl
  rw [schedule]
  rcases scheduleOf_asks hspaced with ⟨digits, seconds, hfirst, hlong, hschedule⟩ |
    ⟨hshort, asked, hschedule, hasks⟩
  . rw [hschedule]
    refine ⟨fun asked => iff_of_false (by simp) ?_, fun fault => ⟨?_, ?_⟩, by simp⟩
    . rintro ⟨-, hshort⟩
      exact absurd (hshort digits seconds hfirst) (Nat.not_le_of_lt hlong)
    . rintro ⟨⟩
      exact ⟨digits, seconds, hfirst, hlong, rfl⟩
    . rintro ⟨digits', seconds', hfirst', -, rfl⟩
      rw [hunique hfirst hfirst']
  . rw [hschedule]
    refine ⟨fun asked' => ?_, fun fault => iff_of_false (by simp) ?_, ?_⟩
    . rw [hasks, Except.ok.injEq, eq_comm (a := asked)]
      exact (and_iff_left hshort).symm
    . rintro ⟨digits, seconds, hfirst, hlong, -⟩
      exact absurd (hshort digits seconds hfirst) (Nat.not_le_of_lt hlong)
    . rintro s ⟨⟩
      exact ((hasks _).2 rfl).interval

/-- A count of zero does not keep a word from asking for a schedule. -/
def zeroText : String := "Daily, every ٠ hours"

theorem schedule_asks_of_zeroText :
    schedule zeroText = .ok (some ⟨86400⟩) ∧ Asks (normal zeroText.toList) (some ⟨86400⟩) := by
  have hschedule : schedule zeroText = .ok (some ⟨86400⟩) := by decide +kernel
  exact ⟨hschedule, (((schedule_asks zeroText).1 _).1 hschedule).1⟩

end Automation.Description
