import Automation.Proofs.Json.Basic
import Automation.Proofs.Json.Token

/-!
This module contains the values that can be read again once they are written: no object has two
fields of one name, and the names are whole. They are read with their lone halves in pairs, and tidy
values, in which all texts are whole, as they were.
-/

namespace Automation

namespace Text

def isWhole (t : Text) : Bool :=
  t.whole?.isSome

@[simp]
theorem isWhole_whole (s : String) : (Text.whole s).isWhole = true := rfl

theorem eq_whole_of_isWhole {t : Text} (h : t.isWhole = true) : ∃ s, t = .whole s := by
  cases t with
  | whole s => exact ⟨s, rfl⟩
  | broken => cases h

theorem paired_of_isWhole {t : Text} (h : t.isWhole = true) : t.paired = t := by
  obtain ⟨s, rfl⟩ := eq_whole_of_isWhole h
  exact paired_whole s

end Text

namespace Json

mutual

/-- Whether a value with texts of a kind can be read back once it is written, whole numbers apart;
at most `room` arrays and objects may stand in each other. -/
def isLegible (isText : Text → Bool) (room : Nat) : Json → Bool
  | real x => isTenths x
  | string t => isText t
  | array xs => 0 < room && areLegible isText (room - 1) xs
  | object fs => 0 < room && Fields.areApart fs && haveLegible isText (room - 1) fs
  | _ => true

def areLegible (isText : Text → Bool) (room : Nat) : List Json → Bool
  | [] => true
  | x :: xs => x.isLegible isText room && areLegible isText room xs

def haveLegible (isText : Text → Bool) (room : Nat) : Fields → Bool
  | [] => true
  | (k, x) :: fs => k.isWhole && x.isLegible isText room && haveLegible isText room fs

end

abbrev isTidy (room : Nat) (v : Json) : Bool :=
  v.isLegible Text.isWhole room

mutual

def paired : Json → Json
  | string t => string t.paired
  | array xs => array (pairedItems xs)
  | object fs => object (pairedFields fs)
  | v => v

def pairedItems : List Json → List Json
  | [] => []
  | x :: xs => x.paired :: pairedItems xs

def pairedFields : Fields → Fields
  | [] => []
  | (k, x) :: fs => (k, x.paired) :: pairedFields fs

end

variable {isText : Text → Bool} {room : Nat} {xs : List Json} {fs : Fields}

theorem areLegible_iff :
    areLegible isText room xs = true ↔ ∀ x ∈ xs, x.isLegible isText room = true := by
  induction xs with
  | nil => simp [areLegible]
  | cons x xs ih => rw [areLegible, Bool.and_eq_true, ih, List.forall_mem_cons]

theorem haveLegible_iff : haveLegible isText room fs = true ↔
    ∀ f ∈ fs, f.1.isWhole = true ∧ f.2.isLegible isText room = true := by
  induction fs with
  | nil => simp [haveLegible]
  | cons f fs ih =>
    rw [haveLegible, Bool.and_eq_true, Bool.and_eq_true, ih, List.forall_mem_cons]

theorem pairedItems_eq (xs : List Json) : pairedItems xs = xs.map paired := by
  induction xs with
  | nil => rfl
  | cons x xs ih => rw [pairedItems, ih, List.map_cons]

theorem pairedFields_eq (fs : Fields) : pairedFields fs = fs.map fun f => (f.1, f.2.paired) := by
  induction fs with
  | nil => rfl
  | cons f fs ih => rw [pairedFields, ih, List.map_cons]

theorem isLegible_mono {v : Json} {more : Nat} (h : v.isLegible isText room = true)
    (hle : room ≤ more) : v.isLegible isText more = true := by
  induction v using inductionOn generalizing room more with
  | array xs ih =>
    rw [isLegible, Bool.and_eq_true, decide_eq_true_iff, areLegible_iff] at h ⊢
    refine ⟨by omega, ?_⟩
    intro x hx
    exact ih x hx (h.2 x hx) (by omega)
  | object fs ih =>
    rw [isLegible, Bool.and_eq_true, Bool.and_eq_true, decide_eq_true_iff, haveLegible_iff] at h ⊢
    refine ⟨⟨by omega, h.1.2⟩, ?_⟩
    intro f hf
    exact ⟨(h.2 f hf).1, ih f hf (h.2 f hf).2 (by omega)⟩
  | _ => exact h

theorem isLegible_of_imp {isText' : Text → Bool} (himp : ∀ t, isText t = true → isText' t = true)
    {v : Json} (h : v.isLegible isText room = true) : v.isLegible isText' room = true := by
  induction v using inductionOn generalizing room with
  | array xs ih =>
    rw [isLegible, Bool.and_eq_true, areLegible_iff] at h ⊢
    exact ⟨h.1, fun x hx => ih x hx (h.2 x hx)⟩
  | object fs ih =>
    rw [isLegible, Bool.and_eq_true, haveLegible_iff] at h ⊢
    exact ⟨h.1, fun f hf => ⟨(h.2 f hf).1, ih f hf (h.2 f hf).2⟩⟩
  | string t => exact himp t h
  | _ => exact h

theorem paired_of_isLegible (htext : ∀ t, isText t = true → t.paired = t) {v : Json}
    (h : v.isLegible isText room = true) : v.paired = v := by
  induction v using inductionOn generalizing room with
  | string t => rw [paired, htext t h]
  | array xs ih =>
    rw [isLegible, Bool.and_eq_true, areLegible_iff] at h
    rw [paired, pairedItems_eq, List.map_congr_left fun x hx => ih x hx (h.2 x hx), List.map_id']
  | object fs ih =>
    rw [isLegible, Bool.and_eq_true, haveLegible_iff] at h
    have hfields : ∀ f ∈ fs, (f.1, f.2.paired) = f := by
      intro f hf
      rw [ih f hf (h.2 f hf).2]
    rw [paired, pairedFields_eq, List.map_congr_left hfields, List.map_id']
  | _ => rfl

theorem paired_of_isTidy {v : Json} (h : v.isTidy room = true) : v.paired = v :=
  paired_of_isLegible (fun _ => Text.paired_of_isWhole) h

theorem areApart_map (f : Json → Json) :
    Fields.areApart (fs.map fun g => (g.1, f g.2)) = Fields.areApart fs := by
  rw [Bool.eq_iff_iff, Fields.areApart_iff_nodup, Fields.areApart_iff_nodup, Fields.keys, List.map_map]
  rfl

theorem isLegible_paired {v : Json} (h : v.isLegible isText room = true) :
    v.paired.isLegible (fun _ => true) room = true := by
  induction v using inductionOn generalizing room with
  | array xs ih =>
    rw [isLegible, Bool.and_eq_true, areLegible_iff] at h
    rw [paired, isLegible, Bool.and_eq_true, areLegible_iff, pairedItems_eq, List.forall_mem_map]
    exact ⟨h.1, fun x hx => ih x hx (h.2 x hx)⟩
  | object fs ih =>
    rw [isLegible, Bool.and_eq_true, Bool.and_eq_true, haveLegible_iff] at h
    rw [paired, isLegible, Bool.and_eq_true, Bool.and_eq_true, haveLegible_iff, pairedFields_eq,
      areApart_map, List.forall_mem_map]
    exact ⟨h.1, fun f hf => ⟨(h.2 f hf).1, ih f hf (h.2 f hf).2⟩⟩
  | string t => rfl
  | _ => exact h

end Json

end Automation
