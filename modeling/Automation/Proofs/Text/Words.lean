import Automation.Text.Blank

/-!
This module contains laws of words. The words of a text are not empty and have no blanks in them,
and such words, joined by spaces, are found in the joined text again. Whatever is left of joined
words starts within a word or at the space before one. Blanks in joined words are spaces that stand
alone.
-/

namespace Automation.Text

structure IsBlankFree (w : List Char) : Prop where
  ne_nil : w ≠ []
  isBlank : ∀ c ∈ w, isBlank c = false

theorem isBlankFree_of_all {w : List Char} (hne : w ≠ []) (h : w.all (!isBlank ·) = true) :
    IsBlankFree w :=
  ⟨hne, by simpa using h⟩

theorem isBlank_space : isBlank ' ' = true := by
  decide

theorem words_go_append {w : List Char} (h : ∀ c ∈ w, isBlank c = false) (word cs : List Char) :
    words.go word (w ++ cs) = words.go (w.reverse ++ word) cs := by
  induction w generalizing word with
  | nil => rfl
  | cons c w ih =>
    rw [List.forall_mem_cons] at h
    simp [words.go, h.1, ih h.2]

@[simp]
theorem joinWords_nil : joinWords [] = [] := rfl

@[simp]
theorem joinWords_singleton (w : List Char) : joinWords [w] = w := by
  simp [joinWords]

theorem joinWords_cons_cons (w w' : List Char) (ws : List (List Char)) :
    joinWords (w :: w' :: ws) = w ++ ' ' :: joinWords (w' :: ws) := by
  simp [joinWords]

theorem joinWords_cons (w : List Char) {ws : List (List Char)} (h : ws ≠ []) :
    joinWords (w :: ws) = w ++ ' ' :: joinWords ws := by
  obtain ⟨w', ws, rfl⟩ := List.exists_cons_of_ne_nil h
  exact joinWords_cons_cons w w' ws

theorem joinWords_append {ws ws' : List (List Char)} (h : ws ≠ []) (h' : ws' ≠ []) :
    joinWords (ws ++ ws') = joinWords ws ++ ' ' :: joinWords ws' := by
  induction ws with
  | nil => exact absurd rfl h
  | cons w ws ih =>
    by_cases hnil : ws = []
    . rw [hnil, List.singleton_append, joinWords_cons w h', joinWords_singleton]
    . rw [List.cons_append, joinWords_cons w (List.append_ne_nil_of_left_ne_nil hnil _), ih hnil,
        joinWords_cons w hnil, List.append_assoc, List.cons_append]

theorem joinWords_ne_nil {ws : List (List Char)} (hne : ws ≠ []) (h : ∀ w ∈ ws, w ≠ []) :
    joinWords ws ≠ [] := by
  obtain ⟨w, ws, rfl⟩ := List.exists_cons_of_ne_nil hne
  by_cases hnil : ws = []
  . rw [hnil, joinWords_singleton]
    exact h w (List.mem_cons_self ..)
  . rw [joinWords_cons w hnil]
    simp

theorem words_joinWords {ws : List (List Char)} (h : ∀ w ∈ ws, IsBlankFree w) :
    words (joinWords ws) = ws := by
  induction ws with
  | nil => rfl
  | cons w ws ih =>
    rw [List.forall_mem_cons] at h
    obtain ⟨⟨hne, hw⟩, hws⟩ := h
    cases ws with
    | nil =>
      have hgo := words_go_append hw [] []
      rw [List.append_nil, List.append_nil] at hgo
      simp [words, hgo, words.go, hne]
    | cons w' ws =>
      rw [joinWords_cons_cons, words, words_go_append hw, words.go]
      simpa [isBlank_space, hne, words] using ih hws

theorem words_of_isBlankFree {w : List Char} (h : IsBlankFree w) : words w = [w] := by
  have hall : ∀ v ∈ [w], IsBlankFree v := by simpa using h
  have hwords := words_joinWords hall
  rwa [joinWords_singleton] at hwords

theorem words_go_append_blank {c : Char} (hc : isBlank c = true) (word x y : List Char) :
    words.go word (x ++ c :: y) = words.go word x ++ words y := by
  induction x generalizing word with
  | nil =>
    rw [List.nil_append, words.go, words.go, if_pos hc]
    split <;> rfl
  | cons d x ih =>
    rw [List.cons_append, words.go, words.go, ih, ih]
    split
    . split <;> rfl
    . rfl

theorem words_append_blank {c : Char} (hc : isBlank c = true) (x y : List Char) :
    words (x ++ c :: y) = words x ++ words y :=
  words_go_append_blank hc [] x y

theorem mem_intercalate {x : α} {sep : List α} {xss : List (List α)} (h : x ∈ sep.intercalate xss) :
    x ∈ sep ∨ ∃ xs ∈ xss, x ∈ xs := by
  induction xss with
  | nil => cases h
  | cons xs xss ih =>
    cases xss with
    | nil => exact .inr ⟨xs, by simp, by simpa using h⟩
    | cons ys xss =>
      rw [List.intercalate_cons_cons, List.append_assoc, List.mem_append, List.mem_append] at h
      rcases h with hx | hx | hx
      . exact .inr ⟨xs, by simp, hx⟩
      . exact .inl hx
      . rcases ih hx with hx | ⟨zs, hzs, hx⟩
        . exact .inl hx
        . exact .inr ⟨zs, List.mem_cons_of_mem _ hzs, hx⟩

theorem mem_joinWords {c : Char} {ws : List (List Char)} (h : c ∈ joinWords ws) :
    c = ' ' ∨ ∃ w ∈ ws, c ∈ w := by
  rw [← List.mem_singleton]
  exact mem_intercalate h

theorem isBlankFree_reverse {word : List Char} (h : ∀ c ∈ word, isBlank c = false)
    (hne : ¬ word.isEmpty = true) : IsBlankFree word.reverse := by
  refine ⟨by simpa using hne, fun c hc => ?_⟩
  exact h c (List.mem_reverse.1 hc)

theorem isBlankFree_of_mem_words_go {w word cs : List Char} (h : ∀ c ∈ word, isBlank c = false)
    (hw : w ∈ words.go word cs) : IsBlankFree w := by
  induction word, cs using words.go.induct with
  | case1 word hempty => simp [words.go, hempty] at hw
  | case2 word hne =>
    simp only [words.go, if_neg hne, List.mem_singleton] at hw
    rw [hw]
    exact isBlankFree_reverse h hne
  | case3 word c cs hblank hempty ih =>
    simp only [words.go, if_pos hblank, if_pos hempty] at hw
    exact ih (by simp) hw
  | case4 word c cs hblank hne ih =>
    simp only [words.go, if_pos hblank, if_neg hne, List.mem_cons] at hw
    rcases hw with rfl | hw
    . exact isBlankFree_reverse h hne
    . exact ih (by simp) hw
  | case5 word c cs hblank ih =>
    simp only [words.go, if_neg hblank] at hw
    apply ih _ hw
    rw [List.forall_mem_cons]
    exact ⟨by simpa using hblank, h⟩

theorem isBlankFree_of_mem_words {w cs : List Char} (h : w ∈ words cs) : IsBlankFree w :=
  isBlankFree_of_mem_words_go (by simp) h

theorem flatten_words_go {word : List Char} (h : ∀ c ∈ word, isBlank c = false) (cs : List Char) :
    (words.go word cs).flatten = word.reverse ++ cs.filter (!isBlank ·) := by
  induction word, cs using words.go.induct with
  | case1 word hempty => simp [words.go, List.isEmpty_iff.1 hempty]
  | case2 word hne => simp [words.go, hne]
  | case3 word c cs hblank hempty ih =>
    rw [words.go, if_pos hblank, if_pos hempty, ih (by simp)]
    simp [hblank, List.isEmpty_iff.1 hempty]
  | case4 word c cs hblank hne ih =>
    rw [words.go, if_pos hblank, if_neg hne, List.flatten_cons, ih (by simp)]
    simp [hblank]
  | case5 word c cs hblank ih =>
    have hc : isBlank c = false := by simpa using hblank
    rw [words.go, if_neg hblank, ih (List.forall_mem_cons.2 ⟨hc, h⟩)]
    simp [hc]

theorem flatten_words (cs : List Char) : (words cs).flatten = cs.filter (!isBlank ·) :=
  flatten_words_go (by simp) cs

theorem mem_of_mem_words {c : Char} {w cs : List Char} (hw : w ∈ words cs) (hc : c ∈ w) :
    c ∈ cs := by
  have hflat : c ∈ (words cs).flatten := List.mem_flatten.2 ⟨w, hw, hc⟩
  rw [flatten_words] at hflat
  exact (List.mem_filter.1 hflat).1

theorem any_joinWords {p : Char → Bool} (hp : p ' ' = false) (ws : List (List Char)) :
    (joinWords ws).any p = ws.flatten.any p := by
  induction ws with
  | nil => rfl
  | cons w ws ih =>
    by_cases hnil : ws = []
    . rw [hnil, joinWords_singleton, List.flatten_singleton]
    . rw [joinWords_cons w hnil, List.any_append, List.any_cons, hp, Bool.false_or, ih,
        List.flatten_cons, List.any_append]

section Breaks

def Breaks (cs : List Char) : Prop :=
  ∀ c ∈ cs.head?, c = ' ' ∨ c = ','

def IsUnbroken (w : List Char) : Prop :=
  ∀ c ∈ w, c ≠ ' ' ∧ c ≠ ','

@[simp]
theorem breaks_nil : Breaks [] := by
  simp [Breaks]

@[simp]
theorem breaks_space (cs : List Char) : Breaks (' ' :: cs) := by
  simp [Breaks]

@[simp]
theorem breaks_comma (cs : List Char) : Breaks (',' :: cs) := by
  simp [Breaks]

theorem Breaks.append {cs cs' : List Char} (h : Breaks cs) (h' : Breaks cs') :
    Breaks (cs ++ cs') := by
  cases cs with
  | nil => exact h'
  | cons c cs => exact h

theorem prefix_of_prefix_append {p w r : List Char} (hp : IsUnbroken p) (hr : Breaks r)
    (h : p <+: w ++ r) : p <+: w := by
  rcases List.prefix_or_prefix_of_prefix h (List.prefix_append w r) with hpw | hwp
  . exact hpw
  . obtain ⟨t, rfl⟩ := hwp
    rw [List.prefix_append_right_inj] at h
    cases t with
    | nil => simp
    | cons c t =>
      obtain ⟨r', rfl⟩ := h
      have hc := hp c (by simp)
      rcases hr c (by simp) with rfl | rfl
      . exact absurd rfl hc.1
      . exact absurd rfl hc.2

theorem eq_of_phrase_followed {p q w r : List Char} (hp : IsUnbroken p) (hw : IsUnbroken w)
    (hr : Breaks r) (h : p ++ ' ' :: q <+: w ++ r) : w = p := by
  obtain ⟨t, rfl⟩ := prefix_of_prefix_append hp hr ((List.prefix_append _ _).trans h)
  rw [List.append_assoc, List.prefix_append_right_inj] at h
  cases t with
  | nil => simp
  | cons c t =>
    obtain ⟨s, hs⟩ := h
    rw [List.cons_append, List.cons_append, List.cons.injEq] at hs
    exact absurd hs.1.symm (hw c (by simp)).1

theorem joinWords_cons_breaks (w : List Char) (ws : List (List Char)) :
    ∃ r, Breaks r ∧ joinWords (w :: ws) = w ++ r := by
  cases ws with
  | nil => exact ⟨[], breaks_nil, by simp⟩
  | cons w' ws => exact ⟨_, breaks_space _, joinWords_cons_cons w w' ws⟩

theorem suffix_append_cases {v w t : List Char} (h : v <:+ w ++ t) :
    (∃ c ∈ w, ∃ r, v = c :: r) ∨ v <:+ t := by
  obtain ⟨u, hu⟩ := h
  rw [List.append_eq_append_iff] at hu
  rcases hu with ⟨a, rfl, rfl⟩ | ⟨b, -, rfl⟩
  . cases a with
    | nil => exact .inr (List.suffix_refl t)
    | cons c a => exact .inl ⟨c, by simp, a ++ t, rfl⟩
  . exact .inr (List.suffix_append b v)

/-- What is left of joined words starts within one of them or with the space before one. -/
theorem suffix_joinWords {ws : List (List Char)} {v : List Char} (h : v <:+ joinWords ws)
    (hv : v ≠ []) :
    (∃ w ∈ ws, ∃ c ∈ w, ∃ r, v = c :: r) ∨ ∃ w ∈ ws, ∃ r, Breaks r ∧ v = ' ' :: (w ++ r) := by
  induction ws with
  | nil =>
    rw [joinWords_nil, List.suffix_nil] at h
    exact absurd h hv
  | cons w ws ih =>
    cases ws with
    | nil =>
      rw [joinWords_singleton, ← List.append_nil w] at h
      rcases suffix_append_cases h with hin | hv'
      . exact .inl ⟨w, List.mem_singleton_self w, hin⟩
      . exact absurd (List.suffix_nil.1 hv') hv
    | cons w' ws =>
      rw [joinWords_cons_cons] at h
      rcases suffix_append_cases h with hin | hv'
      . exact .inl ⟨w, List.mem_cons_self .., hin⟩
      . rcases List.suffix_cons_iff.1 hv' with rfl | hrest
        . obtain ⟨r, hr, hjoin⟩ := joinWords_cons_breaks w' ws
          exact .inr ⟨w', by simp, r, hr, by rw [hjoin]⟩
        . rcases ih hrest with ⟨w'', hw'', hin⟩ | ⟨w'', hw'', hspace⟩
          . exact .inl ⟨w'', List.mem_cons_of_mem _ hw'', hin⟩
          . exact .inr ⟨w'', List.mem_cons_of_mem _ hw'', hspace⟩

end Breaks

section Border

theorem prefix_antisymm {u v : List α} (h : u <+: v) (h' : v <+: u) : u = v :=
  h.eq_of_length_le h'.length_le

variable {p : α → Bool} {u u' v v' : List α}

theorem prefix_of_border (hu : ∀ x ∈ u, p x = true) (hv' : ∀ x ∈ v'.head?, p x = false)
    (h : u ++ v = u' ++ v') : u <+: u' := by
  rcases List.append_eq_append_iff.1 h with ⟨t, rfl, -⟩ | ⟨t, rfl, rfl⟩
  . exact List.prefix_append u t
  . cases t with
    | nil => simp
    | cons x t =>
      have hx := hv' x rfl
      rw [hu x (by simp)] at hx
      cases hx

/-- Where a run of one kind ends is settled by what comes after it. -/
theorem append_inj_of_border (hu : ∀ x ∈ u, p x = true) (hu' : ∀ x ∈ u', p x = true)
    (hv : ∀ x ∈ v.head?, p x = false) (hv' : ∀ x ∈ v'.head?, p x = false)
    (h : u ++ v = u' ++ v') : u = u' ∧ v = v' := by
  have hsame := prefix_antisymm (prefix_of_border hu hv' h) (prefix_of_border hu' hv h.symm)
  rw [hsame, List.append_cancel_left_eq] at h
  exact ⟨hsame, h⟩

end Border

section Spaced

structure IsBlankRun (bs : List Char) : Prop where
  ne_nil : bs ≠ []
  isBlank : ∀ c ∈ bs, isBlank c = true

instance (bs : List Char) : Decidable (IsBlankRun bs) :=
  decidable_of_iff (bs ≠ [] ∧ bs.all (isBlank ·) = true)
    ⟨fun h => ⟨h.1, List.all_eq_true.1 h.2⟩, fun h => ⟨h.ne_nil, List.all_eq_true.2 h.isBlank⟩⟩

structure IsSpaced (cs : List Char) : Prop where
  eq_space : ∀ c ∈ cs, isBlank c = true → c = ' '
  alone : ¬ [' ', ' '] <:+: cs

theorem IsSpaced.within {cs cs' : List Char} (h : IsSpaced cs) (hwithin : cs' <:+: cs) :
    IsSpaced cs' :=
  ⟨fun c hc => h.eq_space c (hwithin.subset hc), fun hspaces => h.alone (hspaces.trans hwithin)⟩

theorem isSpaced_joinWords {ws : List (List Char)} (h : ∀ w ∈ ws, IsBlankFree w) :
    IsSpaced (joinWords ws) := by
  constructor
  . intro c hc hblank
    rcases mem_joinWords hc with rfl | ⟨w, hw, hcw⟩
    . rfl
    . rw [(h w hw).isBlank c hcw] at hblank
      cases hblank
  . intro hspaces
    obtain ⟨v, ⟨r, rfl⟩, hsuffix⟩ := List.infix_iff_prefix_suffix.1 hspaces
    rcases suffix_joinWords hsuffix (by simp) with ⟨w, hw, c, hc, r', heq⟩ | ⟨w, hw, r', -, heq⟩
    . cases heq
      exact absurd ((h w hw).isBlank ' ' hc) (by decide)
    . obtain ⟨c, w', rfl⟩ := List.exists_cons_of_ne_nil (h w hw).ne_nil
      cases heq
      exact absurd ((h _ hw).isBlank ' ' (List.mem_cons_self ..)) (by decide)

theorem IsSpaced.eq_singleton {bs : List Char} (h : IsSpaced bs) (hne : bs ≠ [])
    (hblank : ∀ c ∈ bs, isBlank c = true) : bs = [' '] := by
  have hspace : ∀ c ∈ bs, c = ' ' := fun c hc => h.eq_space c hc (hblank c hc)
  match bs with
  | [] => exact absurd rfl hne
  | [c] => rw [hspace c (by simp)]
  | c :: d :: bs =>
    have halone := h.alone
    rw [hspace c (by simp), hspace d (by simp)] at halone
    exact absurd (List.prefix_append [' ', ' '] bs).isInfix halone

theorem isBlankRun_space : IsBlankRun [' '] :=
  ⟨by simp, by simp [isBlank_space]⟩

theorem eq_space_of_isBlankRun {u blanks v : List Char} (h : IsSpaced (u ++ (blanks ++ v)))
    (hblanks : IsBlankRun blanks) : blanks = [' '] := by
  have hrest := h.within (List.suffix_append u _).isInfix
  exact (hrest.within (List.prefix_append _ _).isInfix).eq_singleton hblanks.ne_nil hblanks.isBlank

theorem joinWords_words_go {word cs : List Char} (hword : ∀ c ∈ word, isBlank c = false)
    (hspaced : IsSpaced cs) (hhead : word = [] → ∀ c ∈ cs.head?, isBlank c = false)
    (hlast : ∀ c ∈ cs.getLast?, isBlank c = false) :
    joinWords (words.go word cs) = word.reverse ++ cs := by
  have hrest : ∀ {c cs}, IsSpaced (c :: cs) → (∀ d ∈ (c :: cs).getLast?, isBlank d = false) →
      IsSpaced cs ∧ ∀ d ∈ cs.getLast?, isBlank d = false := by
    intro c cs hspaced hlast
    refine ⟨hspaced.within (List.suffix_cons c cs).isInfix, fun d hd => hlast d ?_⟩
    rw [List.getLast?_cons, Option.mem_def.1 hd]
    rfl
  induction word, cs using words.go.induct with
  | case1 word hempty => simp [words.go, List.isEmpty_iff.1 hempty]
  | case2 word hne => simp [words.go, hne]
  | case3 word c cs hblank hempty =>
    rw [hhead (List.isEmpty_iff.1 hempty) c rfl] at hblank
    cases hblank
  | case4 word c cs hblank hne ih =>
    obtain ⟨hspaced', hlast'⟩ := hrest hspaced hlast
    obtain rfl := hspaced.eq_space c (List.mem_cons_self ..) hblank
    have hnil : cs ≠ [] := by
      rintro rfl
      rw [hlast ' ' rfl] at hblank
      cases hblank
    have hnext : ∀ d ∈ cs.head?, isBlank d = false := by
      intro d hd
      rw [← Bool.not_eq_true]
      intro hd'
      obtain ⟨cs, rfl⟩ := List.head?_eq_some_iff.1 hd
      obtain rfl := hspaced'.eq_space d (List.mem_cons_self ..) hd'
      exact hspaced.alone (List.prefix_append [' ', ' '] cs).isInfix
    have hjoin := ih (by simp) hspaced' (fun _ => hnext) hlast'
    have hwords : words.go [] cs ≠ [] := by
      intro hgo
      rw [hgo] at hjoin
      exact hnil hjoin.symm
    rw [words.go, if_pos hblank, if_neg hne, joinWords_cons _ hwords, hjoin]
    rfl
  | case5 word c cs hblank ih =>
    obtain ⟨hspaced', hlast'⟩ := hrest hspaced hlast
    have hword' : ∀ d ∈ c :: word, isBlank d = false :=
      List.forall_mem_cons.2 ⟨by simpa using hblank, hword⟩
    rw [words.go, if_neg hblank, ih hword' hspaced' (by simp) hlast']
    simp

theorem IsSpaced.joinWords_words {cs : List Char} (h : IsSpaced cs)
    (hhead : ∀ c ∈ cs.head?, isBlank c = false) (hlast : ∀ c ∈ cs.getLast?, isBlank c = false) :
    joinWords (words cs) = cs :=
  joinWords_words_go (by simp) h (fun _ => hhead) hlast

end Spaced

end Automation.Text
