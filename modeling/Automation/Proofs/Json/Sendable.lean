import Automation.Proofs.Json.Sorted
import Automation.Proofs.Text.Glyphs

/-!
This module contains the values that can be sent: without lone halves in their texts and without
numbers that are not finite, their compact text can be encoded.
-/

namespace Automation

namespace Json

mutual

def isSendable : Json → Bool
  | real x => x.isFinite
  | string t => t.isWhole
  | array xs => areSendable xs
  | object fs => haveSendable fs
  | _ => true

def areSendable : List Json → Bool
  | [] => true
  | x :: xs => x.isSendable && areSendable xs

def haveSendable : Fields → Bool
  | [] => true
  | (k, x) :: fs => k.isWhole && x.isSendable && haveSendable fs

end

variable {room : Nat} {xs : List Json} {fs : Fields}

theorem areSendable_iff : areSendable xs = true ↔ ∀ x ∈ xs, x.isSendable = true := by
  induction xs with
  | nil => simp [areSendable]
  | cons x xs ih => rw [areSendable, Bool.and_eq_true, ih, List.forall_mem_cons]

theorem haveSendable_iff : haveSendable fs = true ↔
    ∀ f ∈ fs, f.1.isWhole = true ∧ f.2.isSendable = true := by
  induction fs with
  | nil => simp [haveSendable]
  | cons f fs ih =>
    rw [haveSendable, Bool.and_eq_true, Bool.and_eq_true, ih, List.forall_mem_cons]

theorem areFinite_iff : areFinite xs = true ↔ ∀ x ∈ xs, x.isFinite = true := by
  induction xs with
  | nil => simp [areFinite]
  | cons x xs ih => rw [areFinite, Bool.and_eq_true, ih, List.forall_mem_cons]

theorem haveFinite_iff : haveFinite fs = true ↔ ∀ f ∈ fs, f.2.isFinite = true := by
  induction fs with
  | nil => simp [haveFinite]
  | cons f fs ih => rw [haveFinite, Bool.and_eq_true, ih, List.forall_mem_cons]

theorem isFinite_of_isTenths {x : Binary64} (h : isTenths x = true) : x.isFinite = true := by
  unfold isTenths at h
  split at h
  . simp only [Bool.and_eq_true] at h
    exact h.1.2
  . cases h

theorem isSendable_of_isTidy {v : Json} (h : v.isTidy room = true) : v.isSendable = true := by
  induction v using inductionOn generalizing room with
  | null => rfl
  | bool b => rfl
  | int n => rfl
  | real x => exact isFinite_of_isTenths h
  | string t => exact h
  | array xs ih =>
    rw [isTidy, isLegible, Bool.and_eq_true, areLegible_iff] at h
    rw [isSendable, areSendable_iff]
    intro x hx
    exact ih x hx (h.2 x hx)
  | object fs ih =>
    rw [isTidy, isLegible, Bool.and_eq_true, haveLegible_iff] at h
    rw [isSendable, haveSendable_iff]
    intro f hf
    exact ⟨(h.2 f hf).1, ih f hf (h.2 f hf).2⟩

def Unbroken (gs : List Glyph) : Prop :=
  ∀ g ∈ gs, ∃ c, g = .char c

namespace Unbroken

variable {gs hs : List Glyph}

theorem nil : Unbroken [] := by
  intro g hg
  cases hg

theorem chars (cs : List Char) : Unbroken (cs.map .char) := by
  intro g hg
  obtain ⟨c, _, rfl⟩ := List.mem_map.1 hg
  exact ⟨c, rfl⟩

theorem cons (c : Char) (h : Unbroken gs) : Unbroken (.char c :: gs) := by
  rw [Unbroken, List.forall_mem_cons]
  exact ⟨⟨c, rfl⟩, h⟩

theorem char (c : Char) : Unbroken [.char c] :=
  cons c nil

theorem append (hg : Unbroken gs) (hh : Unbroken hs) : Unbroken (gs ++ hs) := by
  rw [Unbroken, List.forall_mem_append]
  exact ⟨hg, hh⟩

theorem exists_chars (h : Unbroken gs) : ∃ cs : List Char, gs = cs.map .char := by
  induction gs with
  | nil => exact ⟨[], rfl⟩
  | cons g gs ih =>
    rw [Unbroken, List.forall_mem_cons] at h
    obtain ⟨⟨c, rfl⟩, hgs⟩ := h
    obtain ⟨cs, rfl⟩ := ih hgs
    exact ⟨c :: cs, rfl⟩

theorem isWhole_ofGlyphs (h : Unbroken gs) : (Text.ofGlyphs gs).isWhole = true := by
  obtain ⟨cs, rfl⟩ := exists_chars h
  have hglyphs := Text.ofGlyphs_glyphs (.whole (String.ofList cs))
  rw [Text.glyphs, String.toList_ofList] at hglyphs
  rw [hglyphs]
  rfl

theorem glyphs {t : Text} (h : t.isWhole = true) : Unbroken t.glyphs := by
  obtain ⟨s, rfl⟩ := Text.eq_whole_of_isWhole h
  exact chars s.toList

theorem iff_forall_half : Unbroken gs ↔ ∀ half, .half half ∉ gs := by
  constructor
  . intro h half hmem
    obtain ⟨c, hc⟩ := h _ hmem
    cases hc
  . intro h g hg
    cases g with
    | char c => exact ⟨c, rfl⟩
    | half half => exact absurd hg (h half)

theorem isWhole_ofGlyphs_iff :
    (Text.ofGlyphs gs).isWhole = true ↔ Unbroken gs := by
  constructor
  . intro h
    have hglyphs := glyphs h
    rwa [Text.glyphs_ofGlyphs] at hglyphs
  . exact isWhole_ofGlyphs

theorem append_iff : Unbroken (gs ++ hs) ↔ Unbroken gs ∧ Unbroken hs :=
  List.forall_mem_append

theorem cons_iff {c : Char} : Unbroken (.char c :: gs) ↔ Unbroken gs :=
  ⟨fun h g hg => h g (List.mem_cons_of_mem _ hg), cons c⟩

theorem glyphs_iff {t : Text} : Unbroken t.glyphs ↔ t.isWhole = true := by
  rw [← isWhole_ofGlyphs_iff, Text.ofGlyphs_glyphs]

theorem keepGlyph_iff {g : Glyph} : Unbroken (keepGlyph g) ↔ ∃ c, g = .char c := by
  cases g with
  | char c => exact iff_of_true (chars _) ⟨c, rfl⟩
  | half half => simp [keepGlyph, Unbroken]

theorem keepText_iff {t : Text} : Unbroken (keepText t) ↔ t.isWhole = true := by
  have hflat : Unbroken (t.glyphs.flatMap keepGlyph) ↔
      ∀ g ∈ t.glyphs, Unbroken (keepGlyph g) := by
    simp only [Unbroken, List.forall_mem_flatMap]
  rw [keepText, List.cons_append, cons_iff, append_iff, and_iff_left (char '"'), hflat,
    ← glyphs_iff]
  exact forall₂_congr fun g _ => keepGlyph_iff

theorem writeItems_iff : Unbroken (writeItems .char [] keepText xs) ↔
    ∀ x ∈ xs, Unbroken (x.writeInline .char [] keepText) := by
  induction xs with
  | nil => exact iff_of_true nil (List.forall_mem_nil _)
  | cons x xs ih =>
    rw [writeItems, List.cons_append, List.cons_append, cons_iff, append_iff, ih,
      List.forall_mem_cons]
    rfl

theorem writeField_iff {k : Text} {x : Json} :
    Unbroken (keepText k ++ [.char ':'] ++ [] ++ x.writeInline .char [] keepText) ↔
      k.isWhole = true ∧ Unbroken (x.writeInline .char [] keepText) := by
  rw [append_iff, append_iff, append_iff, keepText_iff, and_iff_left nil,
    and_iff_left (char ':')]

theorem writeFields_iff : Unbroken (writeFields .char [] keepText fs) ↔
    ∀ f ∈ fs, f.1.isWhole = true ∧ Unbroken (f.2.writeInline .char [] keepText) := by
  induction fs with
  | nil => exact iff_of_true nil (List.forall_mem_nil _)
  | cons f fs ih =>
    rw [List.forall_mem_cons, ← writeField_iff, ← ih, ← append_iff, writeFields]
    simp only [List.append_nil, List.cons_append, cons_iff, List.nil_append]

theorem writeInline_array_iff : Unbroken ((array xs).writeInline .char [] keepText) ↔
    ∀ x ∈ xs, Unbroken (x.writeInline .char [] keepText) := by
  cases xs with
  | nil => exact iff_of_true (chars ['[', ']']) (List.forall_mem_nil _)
  | cons x xs =>
    rw [writeInline, append_iff, and_iff_left (char ']'), List.cons_append, cons_iff, append_iff,
      writeItems_iff, List.forall_mem_cons]

theorem writeInline_object_iff : Unbroken ((object fs).writeInline .char [] keepText) ↔
    ∀ f ∈ fs, f.1.isWhole = true ∧ Unbroken (f.2.writeInline .char [] keepText) := by
  cases fs with
  | nil => exact iff_of_true (chars ['\x7b', '\x7d']) (List.forall_mem_nil _)
  | cons f fs =>
    rw [List.forall_mem_cons, ← writeField_iff, ← writeFields_iff, ← append_iff]
    rw [writeInline, append_iff, and_iff_left (char '\x7d')]
    simp only [List.append_nil, List.cons_append, cons_iff]

theorem writeInline_iff {v : Json} (h : v.isFinite = true) :
    Unbroken (v.writeInline .char [] keepText) ↔ v.isSendable = true := by
  induction v using inductionOn with
  | real x => exact iff_of_true (chars _) h
  | string t => exact keepText_iff
  | array xs ih =>
    rw [isFinite, areFinite_iff] at h
    rw [writeInline_array_iff, isSendable, areSendable_iff]
    exact forall₂_congr fun x hx => ih x hx (h x hx)
  | object fs ih =>
    rw [isFinite, haveFinite_iff] at h
    rw [writeInline_object_iff, isSendable, haveSendable_iff]
    exact forall₂_congr fun f hf => and_congr_right fun _ => ih f hf (h f hf)
  | _ => exact iff_of_true (chars _) rfl

end Unbroken

theorem isFinite_of_isSendable {v : Json} (h : v.isSendable = true) : v.isFinite = true := by
  induction v using inductionOn with
  | real x => exact h
  | array xs ih =>
    rw [isSendable, areSendable_iff] at h
    rw [isFinite, areFinite_iff]
    exact fun x hx => ih x hx (h x hx)
  | object fs ih =>
    rw [isSendable, haveSendable_iff] at h
    rw [isFinite, haveFinite_iff]
    exact fun f hf => ih f hf (h f hf).2
  | _ => rfl

theorem isSendable_iff {v : Json} :
    v.isSendable = true ↔ v.isFinite = true ∧ v.compact.isWhole = true := by
  rw [compact, Unbroken.isWhole_ofGlyphs_iff]
  constructor
  . intro h
    have hfinite := isFinite_of_isSendable h
    exact ⟨hfinite, (Unbroken.writeInline_iff hfinite).mpr h⟩
  . exact fun ⟨hfinite, hunbroken⟩ => (Unbroken.writeInline_iff hfinite).mp hunbroken

end Json

end Automation
