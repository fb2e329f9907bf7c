import Automation.Console.Markup

/-!
This module contains laws of markup. A text is parsed into glyphs and tags in one way; escaping adds
backslashes to its tags and nothing else, so that an escaped text, whatever without brackets comes
after it, is parsed into the same parts with their tags made plain.
-/

namespace Automation.Console.Markup

section Tags

structure IsTag (content : List Glyph) : Prop where
  startsTag : content.head?.any startsTag = true
  isBracket : ∀ g ∈ content, isBracket g = false

def opensTag (gs : List Glyph) : Bool :=
  gs.head?.any startsTag && gs.find? isBracket == some (.char ']')

theorem isBracket_of_startsTag {g : Glyph} (h : startsTag g = true) : isBracket g = false := by
  cases hbracket : isBracket g with
  | false => rfl
  | true =>
    rw [isBracket, Bool.or_eq_true, beq_iff_eq, beq_iff_eq] at hbracket
    obtain rfl | rfl := hbracket <;> exact absurd h (by decide)

theorem find?_append_bracket {content : List Glyph} (h : ∀ g ∈ content, isBracket g = false)
    (rest : List Glyph) :
    (content ++ .char ']' :: rest).find? isBracket = some (.char ']') := by
  rw [List.find?_append, List.find?_eq_none.mpr (by simpa using h), Option.none_or]
  rfl

theorem tagAt?_bracketed {content : List Glyph} (h : IsTag content) (rest : List Glyph) :
    tagAt? (bracketed content ++ rest) = some (content, rest) := by
  obtain ⟨hstarts, hcontent⟩ := h
  cases content with
  | nil => exact absurd hstarts (by decide)
  | cons g gs =>
    have hwhile : ∀ h ∈ gs, (!isBracket h) = true := by
      intro h hh
      rw [hcontent h (List.mem_cons_of_mem g hh)]
      rfl
    have hdrop : (gs ++ .char ']' :: rest).dropWhile (!isBracket ·) = .char ']' :: rest := by
      rw [List.dropWhile_append_of_pos hwhile]
      rfl
    have htake : (gs ++ .char ']' :: rest).takeWhile (!isBracket ·) = gs := by
      rw [List.takeWhile_append_of_pos hwhile]
      exact List.append_nil gs
    have hg : Markup.startsTag g = true := hstarts
    have heq : bracketed (g :: gs) ++ rest = .char '[' :: g :: (gs ++ .char ']' :: rest) := by
      simp [bracketed]
    rw [heq, tagAt?, if_pos hg, hdrop, htake]
    rfl

theorem exists_of_opensTag {gs : List Glyph} (h : opensTag gs = true) :
    ∃ content rest, IsTag content ∧ gs = content ++ .char ']' :: rest := by
  rw [opensTag, Bool.and_eq_true, beq_iff_eq, List.find?_eq_some_iff_append] at h
  obtain ⟨hstarts, -, content, rest, rfl, hcontent⟩ := h
  refine ⟨content, rest, ⟨?_, by simpa using hcontent⟩, rfl⟩
  cases content with
  | nil => cases hstarts
  | cons g gs => exact hstarts

theorem tagAt?_eq_none {g : Glyph} {gs : List Glyph} (h : (g == .char '[' && opensTag gs) = false) :
    tagAt? (g :: gs) = none := by
  unfold tagAt?
  split
  . next g' gs' heq =>
    obtain ⟨rfl, rfl⟩ := List.cons.inj heq
    split
    . next hstarts =>
      split
      . next rest hdrop =>
        have hgs := List.takeWhile_append_dropWhile (p := (!isBracket ·)) (l := gs')
        rw [hdrop] at hgs
        refine absurd ?_ (Bool.eq_false_iff.mp h)
        rw [beq_self_eq_true, Bool.true_and, opensTag, ← hgs, ← List.cons_append,
          find?_append_bracket]
        . simpa using hstarts
        . rw [List.forall_mem_cons]
          refine ⟨isBracket_of_startsTag hstarts, fun g hg => ?_⟩
          simpa using List.all_eq_true.mp List.all_takeWhile g hg
      . rfl
    . rfl
  . rfl

end Tags

section Parses

/-- A text is parsed after some backslashes: it starts a tag, or another glyph that shows. -/
inductive Parses : Nat → List Glyph → List Part → Prop where
  | nil (n : Nat) : Parses n [] ((backslashes n).map .glyph)
  | backslash {n : Nat} {gs : List Glyph} {ps : List Part} (h : Parses (n + 1) gs ps) :
    Parses n (.char '\\' :: gs) ps
  | tag (n : Nat) {content rest : List Glyph} {ps : List Part} (hcontent : IsTag content)
      (h : Parses 0 rest ps) : Parses n (bracketed content ++ rest) (.tag n content :: ps)
  | glyph (n : Nat) {g : Glyph} {gs : List Glyph} {ps : List Part} (hg : g ≠ .char '\\')
      (hopens : (g == .char '[' && opensTag gs) = false) (h : Parses 0 gs ps) :
    Parses n (g :: gs) ((backslashes n).map .glyph ++ .glyph g :: ps)

theorem parts_go_skip (u gs : List Glyph) : parts.go u.length 0 (u ++ gs) = parts.go 0 0 gs := by
  induction u with
  | nil => rfl
  | cons g u ih => exact ih

theorem parts_go_tag {content : List Glyph} (h : IsTag content) (n : Nat) (rest : List Glyph) :
    parts.go 0 n (bracketed content ++ rest) = .tag n content :: parts.go 0 0 rest := by
  have heq : bracketed content ++ rest = .char '[' :: (content ++ [.char ']'] ++ rest) := by
    simp [bracketed]
  have htag := tagAt?_bracketed h rest
  rw [heq] at htag ⊢
  rw [parts.go]
  simp only [htag]
  rw [if_neg (by decide), List.length_append, Nat.add_sub_cancel, parts_go_skip]

theorem parts_go_glyph {g : Glyph} {gs : List Glyph} (hg : g ≠ .char '\\')
    (hopens : (g == .char '[' && opensTag gs) = false) (n : Nat) :
    parts.go 0 n (g :: gs) = (backslashes n).map .glyph ++ .glyph g :: parts.go 0 0 gs := by
  rw [parts.go]
  simp only [tagAt?_eq_none hopens]
  rw [if_neg hg]

theorem Parses.parts_eq {n : Nat} {gs : List Glyph} {ps : List Part} (h : Parses n gs ps) :
    parts.go 0 n gs = ps := by
  induction h with
  | nil n => rfl
  | backslash h ih => exact ih
  | tag n hcontent h ih => rw [parts_go_tag hcontent, ih]
  | glyph n hg hopens h ih => rw [parts_go_glyph hg hopens, ih]

theorem exists_parses (n : Nat) (gs : List Glyph) : ∃ ps, Parses n gs ps := by
  -- After a tag comes a shorter text, but not the rest of the list.
  induction hlen : gs.length using Nat.strongRecOn generalizing n gs with
  | ind len ih =>
    cases gs with
    | nil => exact ⟨_, .nil n⟩
    | cons g gs =>
      rw [List.length_cons] at hlen
      by_cases hg : g = .char '\\'
      . obtain ⟨ps, h⟩ := ih gs.length (by omega) (n + 1) gs rfl
        rw [hg]
        exact ⟨ps, .backslash h⟩
      . cases hopens : g == .char '[' && opensTag gs with
        | false =>
          obtain ⟨ps, h⟩ := ih gs.length (by omega) 0 gs rfl
          exact ⟨_, .glyph n hg hopens h⟩
        | true =>
          rw [Bool.and_eq_true, beq_iff_eq] at hopens
          obtain ⟨rfl, hopens⟩ := hopens
          obtain ⟨content, rest, hcontent, rfl⟩ := exists_of_opensTag hopens
          rw [List.length_append, List.length_cons] at hlen
          obtain ⟨ps, h⟩ := ih rest.length (by omega) 0 rest rfl
          refine ⟨.tag n content :: ps, ?_⟩
          have htag := Parses.tag n hcontent h
          rwa [bracketed, List.cons_append, List.cons_append, List.append_assoc,
            List.singleton_append] at htag

theorem parses_parts (gs : List Glyph) : Parses 0 gs (parts gs) := by
  obtain ⟨ps, h⟩ := exists_parses 0 gs
  rwa [parts, h.parts_eq]

end Parses

section Escape

def Part.source : Part → List Glyph
  | .glyph g => [g]
  | .tag n content => backslashes n ++ bracketed content

def Part.double : Part → Part
  | .glyph g => .glyph g
  | .tag n content => .tag (2 * n + 1) content

theorem backslashes_succ (n : Nat) (gs : List Glyph) :
    backslashes (n + 1) ++ gs = backslashes n ++ .char '\\' :: gs := by
  rw [backslashes, List.replicate_succ', List.append_assoc, backslashes, List.singleton_append]

theorem flatMap_glyphs {f : Part → List Glyph} (hf : ∀ g, f (.glyph g) = [g]) (gs : List Glyph) :
    (gs.map .glyph).flatMap f = gs := by
  rw [List.flatMap_map]
  simp only [hf]
  exact List.flatMap_singleton' gs

theorem flatMap_source_glyphs (gs : List Glyph) : (gs.map .glyph).flatMap Part.source = gs :=
  flatMap_glyphs (fun _ => rfl) gs

theorem flatMap_escapePart_glyphs (gs : List Glyph) : (gs.map .glyph).flatMap escapePart = gs :=
  flatMap_glyphs (fun _ => rfl) gs

theorem map_double_glyphs (gs : List Glyph) :
    (gs.map Part.glyph).map Part.double = gs.map Part.glyph := by
  rw [List.map_map]
  rfl

theorem Parses.flatMap_source {n : Nat} {gs : List Glyph} {ps : List Part} (h : Parses n gs ps) :
    ps.flatMap Part.source = backslashes n ++ gs := by
  induction h with
  | nil n => rw [flatMap_source_glyphs, List.append_nil]
  | backslash h ih => rw [ih, backslashes_succ]
  | tag n hcontent h ih => rw [List.flatMap_cons, ih, Part.source, List.append_assoc]; rfl
  | glyph n hg hopens h ih =>
    rw [List.flatMap_append, flatMap_source_glyphs, List.flatMap_cons, ih]; rfl

theorem find?_backslashes (n : Nat) (gs : List Glyph) :
    (backslashes n ++ gs).find? isBracket = gs.find? isBracket := by
  induction n with
  | zero => rfl
  | succ n ih => exact ih

theorem find?_bracketed (content rest : List Glyph) :
    (bracketed content ++ rest).find? isBracket = some (.char '[') := rfl

theorem Parses.find?_escaped {n : Nat} {gs : List Glyph} {ps : List Part} (h : Parses n gs ps) :
    (ps.flatMap escapePart).find? isBracket = gs.find? isBracket := by
  induction h with
  | nil n =>
    rw [flatMap_escapePart_glyphs, ← find?_backslashes n [], List.append_nil]
  | backslash h ih => exact ih
  | tag n hcontent h ih =>
    rw [List.flatMap_cons, escapePart, List.append_assoc, find?_backslashes, find?_bracketed,
      find?_bracketed]
  | glyph n hg hopens h ih =>
    rw [List.flatMap_append, flatMap_escapePart_glyphs, find?_backslashes, List.flatMap_cons,
      escapePart, List.singleton_append, List.find?_cons, List.find?_cons, ih]

theorem Parses.startsTag_escaped {n : Nat} {gs : List Glyph} {ps : List Part}
    (h : Parses n gs ps) :
    (ps.flatMap escapePart).head?.any startsTag = (backslashes n ++ gs).head?.any startsTag := by
  induction h with
  | nil n => rw [flatMap_escapePart_glyphs, List.append_nil]
  | backslash h ih => rw [ih, backslashes_succ]
  | tag n hcontent h ih => cases n <;> rfl
  | glyph n hg hopens h ih =>
    rw [List.flatMap_append, flatMap_escapePart_glyphs]
    cases n <;> rfl

theorem opensTag_append (gs : List Glyph) {rest : List Glyph}
    (h : ∀ g ∈ rest, isBracket g = false) : opensTag (gs ++ rest) = opensTag gs := by
  have hrest : rest.find? isBracket = none := List.find?_eq_none.mpr (by simpa using h)
  cases gs with
  | nil => rw [List.nil_append, opensTag, hrest, Bool.and_comm]; rfl
  | cons g gs => rw [opensTag, List.find?_append, hrest, Option.or_none]; rfl

theorem Parses.opensTag_escaped {gs : List Glyph} {ps : List Part} (h : Parses 0 gs ps) :
    opensTag (ps.flatMap escapePart) = opensTag gs := by
  rw [opensTag, h.find?_escaped, h.startsTag_escaped]
  rfl

theorem parts_go_backslashes (n pending : Nat) (gs : List Glyph) :
    parts.go 0 pending (backslashes n ++ gs) = parts.go 0 (pending + n) gs := by
  induction n generalizing pending with
  | zero => rfl
  | succ n ih =>
    have hgo := ih (pending + 1)
    rw [Nat.add_right_comm] at hgo
    exact hgo

theorem parts_go_unbracketed {gs : List Glyph} (h : ∀ g ∈ gs, isBracket g = false) (n : Nat) :
    parts.go 0 n gs = (backslashes n ++ gs).map .glyph := by
  induction gs generalizing n with
  | nil => rw [List.append_nil]; rfl
  | cons g gs ih =>
    rw [List.forall_mem_cons] at h
    by_cases hg : g = .char '\\'
    . rw [hg, ← backslashes_succ, ← ih h.2]
      rfl
    . have hopen : g ≠ .char '[' := by
        rintro rfl
        exact absurd h.1 (by decide)
      rw [parts_go_glyph hg (by simp [hopen]), ih h.2, List.map_append, List.map_append]
      rfl

theorem Parses.parts_go_escaped {n : Nat} {gs rest : List Glyph} {ps : List Part}
    (h : Parses n gs ps) (hrest : ∀ g ∈ rest, isBracket g = false) :
    parts.go 0 0 (ps.flatMap escapePart ++ rest) = (ps ++ rest.map Part.glyph).map Part.double := by
  induction h with
  | nil n =>
    rw [flatMap_escapePart_glyphs, parts_go_backslashes, parts_go_unbracketed hrest, Nat.zero_add,
      ← List.map_append, map_double_glyphs]
  | backslash h ih => exact ih
  | tag n hcontent h ih =>
    rw [List.flatMap_cons, escapePart, List.append_assoc, List.append_assoc, parts_go_backslashes,
      parts_go_tag hcontent, ih, Nat.zero_add]
    rfl
  | glyph n hg hopens h ih =>
    rw [← h.opensTag_escaped, ← opensTag_append _ hrest] at hopens
    rw [List.flatMap_append, flatMap_escapePart_glyphs, List.append_assoc, parts_go_backslashes,
      List.flatMap_cons, escapePart, List.append_assoc, List.singleton_append,
      parts_go_glyph hg hopens, ih, Nat.zero_add, List.append_assoc]
    simp only [List.map_append, map_double_glyphs, List.cons_append, List.map_cons, Part.double]

end Escape

end Automation.Console.Markup
