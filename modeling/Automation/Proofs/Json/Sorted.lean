import Automation.Proofs.Json.Lines

/-!
This module contains what becomes of a value when its fields are put in the order of their names: it
can be read again as well as before and stays the same value, for the order of fields does not
count.
-/

namespace Automation.Json

variable {isText : Text → Bool} {room : Nat} {xs : List Json} {fs gs : Fields}

theorem areWritable_iff : areWritable xs = true ↔ ∀ x ∈ xs, x.isWritable = true := by
  induction xs with
  | nil => simp [areWritable]
  | cons x xs ih => rw [areWritable, Bool.and_eq_true, ih, List.forall_mem_cons]

theorem haveWritable_iff : haveWritable fs = true ↔ ∀ f ∈ fs, f.2.isWritable = true := by
  induction fs with
  | nil => simp [haveWritable]
  | cons f fs ih => rw [haveWritable, Bool.and_eq_true, ih, List.forall_mem_cons]

theorem sortedItems_eq (xs : List Json) : sortedItems xs = xs.map sorted := by
  induction xs with
  | nil => rfl
  | cons x xs ih => rw [sortedItems, ih, List.map_cons]

theorem sortedFields_eq (fs : Fields) : sortedFields fs = fs.map fun f => (f.1, f.2.sorted) := by
  induction fs with
  | nil => rfl
  | cons f fs ih => rw [sortedFields, ih, List.map_cons]

def inOrder (fs : Fields) : Fields :=
  (sortedFields fs).mergeSort fun f g => Text.precedes f.1 g.1

theorem sorted_object (fs : Fields) : (object fs).sorted = object (inOrder fs) := by
  rw [sorted, inOrder]

theorem mem_inOrder {f : Text × Json} :
    f ∈ inOrder fs ↔ ∃ x, (f.1, x) ∈ fs ∧ f.2 = x.sorted := by
  unfold inOrder
  rw [List.mem_mergeSort, sortedFields_eq, List.mem_map]
  constructor
  . rintro ⟨g, hg, rfl⟩
    exact ⟨g.2, hg, rfl⟩
  . rintro ⟨x, hx, hf⟩
    exact ⟨_, hx, by rw [← hf]⟩

theorem length_inOrder (fs : Fields) : (inOrder fs).length = fs.length := by
  rw [inOrder, List.length_mergeSort, sortedFields_eq, List.length_map]

theorem areApart_inOrder (h : Fields.areApart fs = true) :
    Fields.areApart (inOrder fs) = true := by
  have hperm : ((inOrder fs).map fun f => f.1).Perm (fs.map fun f => f.1) := by
    have hfields := (List.mergeSort_perm (sortedFields fs)
      fun f g => Text.precedes f.1 g.1).map fun f => f.1
    rw [sortedFields_eq, List.map_map] at hfields
    rw [inOrder, sortedFields_eq]
    exact hfields
  rw [Fields.areApart_iff_nodup] at h ⊢
  exact hperm.nodup_iff.2 h

theorem isLegible_sorted {v : Json} (h : v.isLegible isText room = true) :
    v.sorted.isLegible isText room = true := by
  induction v using inductionOn generalizing room with
  | array xs ih =>
    rw [isLegible, Bool.and_eq_true, areLegible_iff] at h
    rw [sorted, isLegible, Bool.and_eq_true, areLegible_iff, sortedItems_eq, List.forall_mem_map]
    exact ⟨h.1, fun x hx => ih x hx (h.2 x hx)⟩
  | object fs ih =>
    rw [isLegible, Bool.and_eq_true, Bool.and_eq_true, haveLegible_iff] at h
    rw [sorted_object, isLegible, Bool.and_eq_true, Bool.and_eq_true, haveLegible_iff]
    refine ⟨⟨h.1.1, areApart_inOrder h.1.2⟩, ?_⟩
    intro f hf
    obtain ⟨x, hx, hf⟩ := mem_inOrder.1 hf
    rw [hf]
    exact ⟨(h.2 _ hx).1, ih _ hx (h.2 _ hx).2⟩
  | _ => simpa only [sorted] using h

/-- The names of fields are left as they are, so their order is the same. -/
theorem sorted_paired (v : Json) : v.paired.sorted = v.sorted.paired := by
  induction v using inductionOn with
  | array xs ih =>
    rw [paired, sorted, sorted, paired, pairedItems_eq, sortedItems_eq, sortedItems_eq,
      pairedItems_eq, List.map_map, List.map_map]
    exact congrArg array (List.map_congr_left ih)
  | object fs ih =>
    have hfields : (pairedFields fs).map (fun f => (f.1, f.2.sorted)) =
        (fs.map fun f => (f.1, f.2.sorted)).map fun f => (f.1, f.2.paired) := by
      rw [pairedFields_eq, List.map_map, List.map_map]
      apply List.map_congr_left
      intro f hf
      exact congrArg (f.1, ·) (ih f hf)
    have horder : ((sortedFields fs).mergeSort fun f g => Text.precedes f.1 g.1).map
        (fun f => (f.1, f.2.paired)) = ((sortedFields fs).map fun f => (f.1, f.2.paired)).mergeSort
          fun f g => Text.precedes f.1 g.1 :=
      List.map_mergeSort fun _ _ _ _ => rfl
    rw [paired, sorted_object, sorted_object, paired, inOrder, inOrder, sortedFields_eq, hfields,
      pairedFields_eq, ← sortedFields_eq, horder]
  | _ => rfl

theorem isWritable_sorted {v : Json} (h : v.isWritable = true) : v.sorted.isWritable = true := by
  induction v using inductionOn with
  | array xs ih =>
    rw [isWritable, areWritable_iff] at h
    rw [sorted, isWritable, areWritable_iff, sortedItems_eq]
    intro y hy
    obtain ⟨x, hx, rfl⟩ := List.mem_map.1 hy
    exact ih x hx (h x hx)
  | object fs ih =>
    rw [isWritable, haveWritable_iff] at h
    rw [sorted_object, isWritable, haveWritable_iff]
    intro f hf
    obtain ⟨x, hx, hf⟩ := mem_inOrder.1 hf
    rw [hf]
    exact ih _ hx (h _ hx)
  | _ => simpa only [sorted] using h

theorem sameItems_map {f : Json → Json} (h : ∀ x ∈ xs, (f x).same x = true) :
    sameItems (xs.map f) xs = true := by
  induction xs with
  | nil => rfl
  | cons x xs ih =>
    rw [List.forall_mem_cons] at h
    rw [List.map_cons, sameItems, h.1, ih h.2]
    rfl

theorem sameFields_of_forall
    (h : ∀ g ∈ gs, ∃ w, Fields.get? fs g.1 = some w ∧ g.2.same w = true) :
    sameFields gs fs = true := by
  induction gs with
  | nil => rfl
  | cons g gs ih =>
    rw [List.forall_mem_cons] at h
    obtain ⟨⟨w, hget, hsame⟩, hgs⟩ := h
    rw [sameFields, hget]
    simp [hsame, ih hgs]

theorem same_sorted {v : Json} (h : v.isLegible isText room = true) : v.sorted.same v = true := by
  induction v using inductionOn generalizing room with
  | null => rfl
  | bool b => simp [sorted, same, sameNumber, wholeNumber?]
  | int n => simp [sorted, same, sameNumber, wholeNumber?]
  | real x =>
    cases x with
    | finite negative m e => simp [sorted, same, sameNumber, Binary64.equals]
    | infinite negative => simp [sorted, same, sameNumber, Binary64.equals]
    | undefined => cases h
  | string t => simp [sorted, same]
  | array xs ih =>
    rw [isLegible, Bool.and_eq_true, areLegible_iff] at h
    rw [sorted, same, sortedItems_eq]
    apply sameItems_map
    intro x hx
    exact ih x hx (h.2 x hx)
  | object fs ih =>
    rw [isLegible, Bool.and_eq_true, Bool.and_eq_true, haveLegible_iff] at h
    rw [sorted_object, same, length_inOrder, beq_self_eq_true, Bool.true_and]
    apply sameFields_of_forall
    intro f hf
    obtain ⟨x, hx, hf⟩ := mem_inOrder.1 hf
    refine ⟨x, Fields.get?_of_mem h.1.2 hx, ?_⟩
    rw [hf]
    exact ih _ hx (h.2 _ hx).2

theorem ofText_sorted_lines_paired {v : Json} (hlegible : v.isLegible isText maxDepth = true)
    (hwrite : v.isWritable = true) :
    ofText v.sorted.lines = .ok v.paired.sorted ∧ v.paired.sorted.same v.paired = true := by
  have hread := ofText_lines_paired (isLegible_sorted hlegible) (isWritable_sorted hwrite)
  rw [← sorted_paired] at hread
  exact ⟨hread, same_sorted (isLegible_paired hlegible)⟩

end Automation.Json
