import Automation.Json.Reader
import Automation.Proofs.Json.Legible

/-!
This module contains the round trip of values through their texts on lines: what is written is read
with its lone halves in pairs, and as it was if its texts are whole, provided that no object has two
fields of one name and that its numbers are short enough to be written.
-/

namespace Automation

namespace Json

mutual

def tokensOf : Json → List Token
  | string t => [.text t]
  | array [] => [.openArray, .closeArray]
  | array (x :: xs) => .openArray :: tokensOf x ++ itemTokens xs ++ [.closeArray]
  | object [] => [.openObject, .closeObject]
  | object ((k, x) :: fs) =>
    .openObject :: .text k :: .colon :: tokensOf x ++ fieldTokens fs ++ [.closeObject]
  | v => [.scalar v]

def itemTokens : List Json → List Token
  | [] => []
  | x :: xs => .comma :: tokensOf x ++ itemTokens xs

def fieldTokens : Fields → List Token
  | [] => []
  | (k, x) :: fs => .comma :: .text k :: .colon :: tokensOf x ++ fieldTokens fs

end

def Cuts (cs : List Char) (ts : List Token) (rest : List Char) : Prop :=
  ∀ fuel, cs.length ≤ fuel →
    ∃ left, rest.length ≤ left ∧ tokens.go fuel cs = ts ++ tokens.go left rest

namespace Cuts

variable {cs mid rest : List Char} {ts more : List Token}

theorem refl (cs : List Char) : Cuts cs [] cs := by
  intro fuel hfuel
  exact ⟨fuel, hfuel, rfl⟩

theorem trans (h : Cuts cs ts mid) (hmid : Cuts mid more rest) : Cuts cs (ts ++ more) rest := by
  intro fuel hfuel
  obtain ⟨left, hleft, hgo⟩ := h fuel hfuel
  obtain ⟨last, hlast, hgo'⟩ := hmid left hleft
  exact ⟨last, hlast, by rw [hgo, hgo', List.append_assoc]⟩

theorem gap {c : Char} (hc : isGap c = true) (h : Cuts cs ts rest) : Cuts (c :: cs) ts rest := by
  intro fuel hfuel
  rw [List.length_cons] at hfuel
  obtain ⟨fuel, rfl⟩ : ∃ n, fuel = n + 1 := ⟨fuel - 1, by omega⟩
  obtain ⟨left, hleft, hgo⟩ := h (fuel + 1) (by omega)
  refine ⟨left, hleft, ?_⟩
  rw [← hgo, tokens.go, tokens.go, List.dropWhile_cons_of_pos hc]

theorem newLine (depth : Nat) (h : Cuts cs ts rest) : Cuts (newLine depth ++ cs) ts rest := by
  unfold Json.newLine
  apply gap (by decide)
  generalize 2 * depth = n
  induction n with
  | zero => exact h
  | succ n ih => exact gap (by decide) ih

theorem isGap_of_takeToken {c : Char} (hc : isGap c = true) (cs : List Char) :
    takeToken (c :: cs) = none := by
  simp only [isGap, Bool.or_eq_true, beq_iff_eq] at hc
  rcases hc with ((rfl | rfl) | rfl) | rfl <;>
  simp [takeToken, takeWord, wordValues, takeNumber, takeWhole, takePlainDigits]

theorem token {written : List Char} {t : Token} (hwritten : written ≠ [])
    (h : takeToken (written ++ rest) = some (t, rest)) : Cuts (written ++ rest) [t] rest := by
  intro fuel hfuel
  obtain ⟨c, cs, rfl⟩ := List.exists_cons_of_ne_nil hwritten
  rw [List.cons_append] at h hfuel ⊢
  rw [List.length_cons, List.length_append] at hfuel
  obtain ⟨fuel, rfl⟩ : ∃ n, fuel = n + 1 := ⟨fuel - 1, by omega⟩
  refine ⟨fuel, by omega, ?_⟩
  have hgap : ¬isGap c = true := by
    intro hc
    rw [isGap_of_takeToken hc] at h
    cases h
  rw [tokens.go, List.dropWhile_cons_of_neg hgap]
  simp [h]

theorem mark {c : Char} {t : Token} (ht : takeToken (c :: mid) = some (t, mid))
    (h : Cuts mid ts rest) : Cuts (c :: mid) (t :: ts) rest := by
  have hmark : Cuts ([c] ++ mid) [t] mid := token (by simp) ht
  exact hmark.trans h

end Cuts

section Writing

variable {isText : Text → Bool} {room depth : Nat} {rest : List Char}

theorem cuts_int {n : Int} (hn : n.natAbs < tenTo Text.maxDigits) (h : EndsValue rest) :
    Cuts (writeScalar (.int n) ++ rest) [.scalar (.int n)] rest := by
  apply Cuts.token _ (takeToken_int hn h)
  intro hnil
  have htoken : takeToken (writeScalar (.int n) ++ []) = _ := takeToken_int hn endsValue_nil
  rw [hnil] at htoken
  cases htoken

theorem cuts_tenths {x : Binary64} (hx : isTenths x = true) (h : EndsValue rest) :
    Cuts (writeScalar (.real x) ++ rest) [.scalar (.real x)] rest := by
  apply Cuts.token _ (takeToken_tenths hx h)
  intro hnil
  have htoken : takeToken (writeScalar (.real x) ++ []) = _ := takeToken_tenths hx endsValue_nil
  rw [hnil] at htoken
  cases htoken

theorem cuts_text (t : Text) (rest : List Char) :
    Cuts (writeText t ++ rest) [.text t.paired] rest :=
  Cuts.token (by simp [writeText]) (takeToken_text t rest)

theorem cuts_name {t : Text} (ht : t.isWhole = true) (rest : List Char) :
    Cuts (writeText t ++ rest) [.text t] rest := by
  have htext := cuts_text t rest
  rwa [Text.paired_of_isWhole ht] at htext

theorem endsValue_writeItemLines (depth : Nat) (xs : List Json) (h : EndsValue rest) :
    EndsValue (writeItemLines depth xs ++ rest) := by
  cases xs with
  | nil => exact h
  | cons x xs => simp [writeItemLines]

theorem endsValue_writeFieldLines (depth : Nat) (fs : Fields) (h : EndsValue rest) :
    EndsValue (writeFieldLines depth fs ++ rest) := by
  cases fs with
  | nil => exact h
  | cons f fs => simp [writeFieldLines]

mutual

theorem cuts_writeLines (depth room : Nat) : ∀ (v : Json) (rest : List Char),
    v.isLegible isText room = true → v.isWritable = true → EndsValue rest →
    Cuts (writeLines depth v ++ rest) (tokensOf v.paired) rest
  | null => by
    intro rest _ _ _
    simp only [writeLines, paired, tokensOf]
    exact Cuts.token (by simp [writeScalar]) (takeToken_null rest)
  | bool b => by
    intro rest _ _ _
    simp only [writeLines, paired, tokensOf]
    exact Cuts.token (by cases b <;> simp [writeScalar]) (takeToken_bool b rest)
  | int n => by
    intro rest _ hwrite h
    rw [isWritable, decide_eq_true_iff] at hwrite
    simp only [writeLines, paired, tokensOf]
    exact cuts_int hwrite h
  | real x => by
    intro rest hlegible _ h
    rw [isLegible] at hlegible
    simp only [writeLines, paired, tokensOf]
    exact cuts_tenths hlegible h
  | string t => by
    intro rest _ _ _
    simp only [writeLines, paired, tokensOf]
    exact cuts_text t rest
  | array [] => by
    intro rest _ _ _
    exact Cuts.mark rfl (Cuts.mark rfl (Cuts.refl rest))
  | object [] => by
    intro rest _ _ _
    exact Cuts.mark rfl (Cuts.mark rfl (Cuts.refl rest))
  | array (x :: xs) => by
    intro rest hlegible hwrite h
    simp only [isLegible, areLegible, isWritable, areWritable, Bool.and_eq_true] at hlegible hwrite
    have hclose : Cuts (newLine depth ++ ']' :: rest) [.closeArray] rest :=
      Cuts.newLine depth (Cuts.mark rfl (Cuts.refl rest))
    have hitems := cuts_writeItemLines (depth + 1) (room - 1) xs _ hlegible.2.2 hwrite.2
      (endsValue_newLine depth (']' :: rest))
    have hfirst := cuts_writeLines (depth + 1) (room - 1) x _ hlegible.2.1 hwrite.1
      (endsValue_writeItemLines (depth + 1) xs (endsValue_newLine depth (']' :: rest)))
    have hall := Cuts.newLine (depth + 1) ((hfirst.trans hitems).trans hclose)
    simpa [writeLines, paired, pairedItems, tokensOf] using Cuts.mark (c := '[') rfl hall
  | object ((k, x) :: fs) => by
    intro rest hlegible hwrite h
    simp only [isLegible, haveLegible, isWritable, haveWritable, Bool.and_eq_true] at hlegible hwrite
    have hclose : Cuts (newLine depth ++ '\x7d' :: rest) [.closeObject] rest :=
      Cuts.newLine depth (Cuts.mark rfl (Cuts.refl rest))
    have hfields := cuts_writeFieldLines (depth + 1) (room - 1) fs _ hlegible.2.2 hwrite.2
      (endsValue_newLine depth ('\x7d' :: rest))
    have hfirst := cuts_writeLines (depth + 1) (room - 1) x _ hlegible.2.1.2 hwrite.1
      (endsValue_writeFieldLines (depth + 1) fs (endsValue_newLine depth ('\x7d' :: rest)))
    have hvalue := Cuts.mark (c := ':') rfl (Cuts.gap (c := ' ') (by decide) hfirst)
    have hname := (cuts_name hlegible.2.1.1 _).trans hvalue
    have hall := Cuts.newLine (depth + 1) ((hname.trans hfields).trans hclose)
    simpa [writeLines, paired, pairedFields, tokensOf] using Cuts.mark (c := '\x7b') rfl hall

theorem cuts_writeItemLines (depth room : Nat) : ∀ (xs : List Json) (rest : List Char),
    areLegible isText room xs = true → areWritable xs = true → EndsValue rest →
    Cuts (writeItemLines depth xs ++ rest) (itemTokens (pairedItems xs)) rest
  | [] => by
    intro rest _ _ _
    exact Cuts.refl rest
  | x :: xs => by
    intro rest hlegible hwrite h
    simp only [areLegible, areWritable, Bool.and_eq_true] at hlegible hwrite
    have hitems := cuts_writeItemLines depth room xs rest hlegible.2 hwrite.2 h
    have hfirst := cuts_writeLines depth room x _ hlegible.1 hwrite.1
      (endsValue_writeItemLines depth xs h)
    have hall := Cuts.newLine depth (hfirst.trans hitems)
    simpa [writeItemLines, pairedItems, itemTokens] using Cuts.mark (c := ',') rfl hall

theorem cuts_writeFieldLines (depth room : Nat) : ∀ (fs : Fields) (rest : List Char),
    haveLegible isText room fs = true → haveWritable fs = true → EndsValue rest →
    Cuts (writeFieldLines depth fs ++ rest) (fieldTokens (pairedFields fs)) rest
  | [] => by
    intro rest _ _ _
    exact Cuts.refl rest
  | (k, x) :: fs => by
    intro rest hlegible hwrite h
    simp only [haveLegible, haveWritable, Bool.and_eq_true] at hlegible hwrite
    have hfields := cuts_writeFieldLines depth room fs rest hlegible.2 hwrite.2 h
    have hfirst := cuts_writeLines depth room x _ hlegible.1.2 hwrite.1
      (endsValue_writeFieldLines depth fs h)
    have hvalue := Cuts.mark (c := ':') rfl (Cuts.gap (c := ' ') (by decide) hfirst)
    have hname := (cuts_name hlegible.1.1 _).trans hvalue
    have hall := Cuts.newLine depth (hname.trans hfields)
    simpa [writeFieldLines, pairedFields, fieldTokens] using Cuts.mark (c := ',') rfl hall

end

theorem tokens_go_gaps {cs : List Char} (h : ∀ c ∈ cs, isGap c = true) (fuel : Nat) :
    tokens.go fuel cs = [] := by
  have hdrop : (cs ++ []).dropWhile isGap = [] := List.dropWhile_append_of_pos h
  rw [List.append_nil] at hdrop
  cases fuel <;> simp [tokens.go, hdrop]

theorem tokens_writeLines {v : Json} (hlegible : v.isLegible isText room = true)
    (hwrite : v.isWritable = true) (hends : EndsValue rest) (hgaps : ∀ c ∈ rest, isGap c = true) :
    tokens (v.writeLines 0 ++ rest) = tokensOf v.paired := by
  obtain ⟨left, _, hgo⟩ :=
    cuts_writeLines 0 room v rest hlegible hwrite hends (v.writeLines 0 ++ rest).length (Nat.le_refl _)
  unfold tokens
  rw [hgo, tokens_go_gaps hgaps, List.append_nil]

end Writing

section Reading

variable {isText : Text → Bool}

theorem run_append (r : Reader) (ts more : List Token) :
    r.run (ts ++ more) = r.run ts >>= fun r => r.run more :=
  List.foldlM_append

theorem run_cons (r : Reader) (t : Token) (ts : List Token) :
    r.run (t :: ts) = r.step t >>= fun r => r.run ts :=
  List.foldlM_cons

section

variable {frames : List Frame}

theorem step_openArray (h : frames.length < maxDepth) :
    (Reader.inside frames .value).step .openArray =
      .ok (.inside (.array [] :: frames) .firstItem) :=
  if_pos h

theorem step_openObject (h : frames.length < maxDepth) :
    (Reader.inside frames .value).step .openObject =
      .ok (.inside (.object [] "" :: frames) .firstName) :=
  if_pos h

theorem run_closeArray (items : List Json) :
    (Reader.inside (.array items :: frames) .separator).run [.closeArray] =
      .ok (.supply frames (.array items.reverse)) := rfl

theorem run_closeObject {fields : Fields} (h : Fields.areApart fields.reverse = true)
    (name : Text) :
    (Reader.inside (.object fields name :: frames) .separator).run [.closeObject] =
      .ok (.supply frames (.object fields.reverse)) := by
  change Except.ok (Reader.supply frames (.object (Fields.ofPairs fields.reverse))) = _
  rw [Fields.ofPairs_of_areApart h]

end

theorem run_firstItem (frames : List Frame) (x : Json) :
    (Reader.inside frames .firstItem).run (tokensOf x) =
      (Reader.inside frames .value).run (tokensOf x) := by
  cases x with
  | array xs => cases xs <;> rfl
  | object fs => cases fs <;> rfl
  | _ => rfl

mutual

theorem run_tokensOf : ∀ (v : Json) (room : Nat) (frames : List Frame), v.isLegible isText room = true →
    frames.length + room ≤ maxDepth →
    (Reader.inside frames .value).run (tokensOf v) = .ok (Reader.supply frames v)
  | null => by
    intro _ _ _ _
    rfl
  | bool b => by
    intro _ _ _ _
    rfl
  | int n => by
    intro _ _ _ _
    rfl
  | real x => by
    intro _ _ _ _
    rfl
  | string t => by
    intro _ _ _ _
    rfl
  | array [] => by
    intro room frames hlegible hroom
    simp only [isLegible, Bool.and_eq_true, decide_eq_true_eq] at hlegible
    rw [tokensOf, run_cons, step_openArray (by omega)]
    rfl
  | object [] => by
    intro room frames hlegible hroom
    simp only [isLegible, Bool.and_eq_true, decide_eq_true_eq] at hlegible
    rw [tokensOf, run_cons, step_openObject (by omega)]
    rfl
  | array (x :: xs) => by
    intro room frames hlegible hroom
    simp only [isLegible, areLegible, Bool.and_eq_true, decide_eq_true_eq] at hlegible
    have hfirst := run_tokensOf x (room - 1) (.array [] :: frames) hlegible.2.1
      (by rw [List.length_cons]; omega)
    have hitems := run_itemTokens xs (room - 1) [x] frames hlegible.2.2 (by omega)
    rw [tokensOf, List.cons_append, List.cons_append, run_cons, step_openArray (by omega)]
    change ((Reader.inside _ .firstItem).run (tokensOf x ++ _ ++ _)) = _
    rw [List.append_assoc, run_append, run_firstItem, hfirst]
    change ((Reader.inside (.array [x] :: frames) .separator).run _) = _
    rw [run_append, hitems]
    change ((Reader.inside (.array _ :: frames) .separator).run _) = _
    rw [run_closeArray]
    simp
  | object ((k, x) :: fs) => by
    intro room frames hlegible hroom
    simp only [isLegible, haveLegible, Bool.and_eq_true, decide_eq_true_eq] at hlegible
    have hfirst := run_tokensOf x (room - 1) (.object [] k :: frames) hlegible.2.1.2
      (by rw [List.length_cons]; omega)
    obtain ⟨name, hfields⟩ :=
      run_fieldTokens fs (room - 1) [(k, x)] k frames hlegible.2.2 (by omega)
    rw [tokensOf, List.cons_append, List.cons_append, run_cons, step_openObject (by omega)]
    change ((Reader.inside (.object [] k :: frames) .value).run (tokensOf x ++ _ ++ _)) = _
    rw [List.append_assoc, run_append, hfirst]
    change ((Reader.inside (.object [(k, x)] k :: frames) .separator).run _) = _
    rw [run_append, hfields]
    change ((Reader.inside (.object _ name :: frames) .separator).run _) = _
    rw [run_closeObject (by simpa using hlegible.1.2)]
    simp

theorem run_itemTokens : ∀ (xs : List Json) (room : Nat) (items : List Json) (frames : List Frame),
    areLegible isText room xs = true → frames.length + 1 + room ≤ maxDepth →
    (Reader.inside (.array items :: frames) .separator).run (itemTokens xs) =
      .ok (.inside (.array (xs.reverse ++ items) :: frames) .separator)
  | [] => by
    intro _ _ _ _ _
    rfl
  | x :: xs => by
    intro room items frames hlegible hroom
    simp only [areLegible, Bool.and_eq_true] at hlegible
    have hfirst := run_tokensOf x room (.array items :: frames) hlegible.1
      (by rw [List.length_cons]; omega)
    have hitems := run_itemTokens xs room (x :: items) frames hlegible.2 hroom
    rw [itemTokens, List.cons_append, run_cons]
    change ((Reader.inside (.array items :: frames) .value).run (tokensOf x ++ _)) = _
    rw [run_append, hfirst]
    change ((Reader.inside (.array (x :: items) :: frames) .separator).run _) = _
    rw [hitems, List.reverse_cons, List.append_assoc, List.singleton_append]

theorem run_fieldTokens : ∀ (fs : Fields) (room : Nat) (fields : Fields) (name : Text)
    (frames : List Frame), haveLegible isText room fs = true → frames.length + 1 + room ≤ maxDepth →
    ∃ last, (Reader.inside (.object fields name :: frames) .separator).run (fieldTokens fs) =
      .ok (.inside (.object (fs.reverse ++ fields) last :: frames) .separator)
  | [] => by
    intro _ fields name frames _ _
    exact ⟨name, rfl⟩
  | (k, x) :: fs => by
    intro room fields name frames hlegible hroom
    simp only [haveLegible, Bool.and_eq_true] at hlegible
    have hfirst := run_tokensOf x room (.object fields k :: frames) hlegible.1.2
      (by rw [List.length_cons]; omega)
    obtain ⟨last, hfields⟩ := run_fieldTokens fs room ((k, x) :: fields) k frames hlegible.2 hroom
    refine ⟨last, ?_⟩
    rw [fieldTokens, List.cons_append, List.cons_append, List.cons_append, run_cons]
    change ((Reader.inside (.object fields k :: frames) .value).run (tokensOf x ++ _)) = _
    rw [run_append, hfirst]
    change ((Reader.inside (.object ((k, x) :: fields) k :: frames) .separator).run _) = _
    rw [hfields, List.reverse_cons, List.append_assoc, List.singleton_append]

end

theorem read_writeLines {v : Json} (hlegible : v.isLegible isText maxDepth = true)
    (hwrite : v.isWritable = true) {rest : List Char} (hends : EndsValue rest)
    (hgaps : ∀ c ∈ rest, isGap c = true) : read (v.writeLines 0 ++ rest) = .ok v.paired := by
  have hrun := run_tokensOf v.paired maxDepth [] (isLegible_paired hlegible) (by simp)
  unfold read
  rw [tokens_writeLines hlegible hwrite hends hgaps]
  simp [Reader.start, hrun, Reader.supply, bind, Except.bind, pure, Except.pure]

theorem ofText_lines_paired {v : Json} (hlegible : v.isLegible isText maxDepth = true)
    (hwrite : v.isWritable = true) : ofText v.lines = .ok v.paired := by
  have hread := read_writeLines hlegible hwrite endsValue_nil (List.forall_mem_nil _)
  rw [List.append_nil] at hread
  rw [ofText, lines, String.toList_ofList, hread]

theorem ofText_lines_newLine {v : Json} (hlegible : v.isLegible isText maxDepth = true)
    (hwrite : v.isWritable = true) : ofText (v.lines ++ "\n") = .ok v.paired := by
  rw [ofText, lines, String.toList_append, String.toList_ofList]
  exact read_writeLines hlegible hwrite (endsValue_newLine 0 []) (by simp [isGap])

theorem ofText_lines {v : Json} (htidy : v.isTidy maxDepth = true) (hwrite : v.isWritable = true) :
    ofText v.lines = .ok v := by
  rw [ofText_lines_paired htidy hwrite, paired_of_isTidy htidy]

end Reading

end Json

end Automation
