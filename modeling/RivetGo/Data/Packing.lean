import Mathlib

/-!
# Greedy packing

A stream of weighted items is cut into boxes as it comes. The open box takes the
next item, unless it already has some and either its weight would pass the limit
or it has as many items as a box may have; it is then closed and the item opens
the next one. No item is lost and their order stays, every box is within the
limits unless one item alone is too heavy, and a closed box is never empty.
-/

namespace Packing

variable {α : Type}

/-- The closed boxes, and the open one with its weight. -/
structure Boxes (α : Type) where
  full : List (List α)
  last : List α
  weight : Nat

namespace Boxes

def empty : Boxes α := ⟨[], [], 0⟩

/-- All boxes, the open one included. -/
def all (b : Boxes α) : List (List α) := b.full ++ [b.last]

/-- What has been packed, in order. -/
def items (b : Boxes α) : List α := b.all.flatten

/-- The open box, or a new one if the next item of weight `w` does not fit. -/
def roll (limit most : Nat) (b : Boxes α) (w : Nat) : Boxes α :=
  if b.weight ≠ 0 ∧ (b.weight + w > limit ∨ b.last.length ≥ most) then
    ⟨b.full ++ [b.last], [], 0⟩
  else b

/-- An item at the end of the open box. -/
def put (b : Boxes α) (a : α) (w : Nat) : Boxes α :=
  { b with last := b.last ++ [a], weight := b.weight + w }

/-- One more item of weight `w`. -/
def add (limit most : Nat) (b : Boxes α) (a : α) (w : Nat) : Boxes α :=
  (b.roll limit most w).put a w

@[simp] theorem all_empty : (empty : Boxes α).all = [[]] := rfl

@[simp] theorem items_empty : (empty : Boxes α).items = [] := rfl

theorem items_eq (b : Boxes α) : b.items = b.full.flatten ++ b.last := by
  simp [items, all]

theorem length_all (b : Boxes α) : b.all.length = b.full.length + 1 := by
  simp [all]

theorem items_roll (limit most : Nat) (b : Boxes α) (w : Nat) :
    (b.roll limit most w).items = b.items := by
  unfold roll
  split
  · simp [items_eq]
  · rfl

/-- Nothing is lost, and the order stays. -/
@[simp] theorem items_add (limit most : Nat) (b : Boxes α) (a : α) (w : Nat) :
    (b.add limit most a w).items = b.items ++ [a] := by
  rw [← items_roll limit most b w]
  simp [add, put, items_eq]

end Boxes

/-- The weight of a box. -/
def total (weigh : α → Nat) (box : List α) : Nat := (box.map weigh).sum

@[simp] theorem total_nil (weigh : α → Nat) : total weigh [] = 0 := rfl

@[simp] theorem total_cons (weigh : α → Nat) (a : α) (box : List α) :
    total weigh (a :: box) = weigh a + total weigh box := by
  simp [total]

@[simp] theorem total_append (weigh : α → Nat) (xs ys : List α) :
    total weigh (xs ++ ys) = total weigh xs + total weigh ys := by
  simp [total]

/-- There are no more items than their weight if each of them has some. -/
theorem length_le_total {weigh : α → Nat} (hpos : ∀ a, 0 < weigh a) (xs : List α) :
    xs.length ≤ total weigh xs := by
  induction xs with
  | nil => simp
  | cons x xs ih =>
    have hx := hpos x
    rw [List.length_cons, total_cons]
    omega

/-- A box within the limits, or with one item that passes them alone. -/
def Fits (weigh : α → Nat) (limit most : Nat) (box : List α) : Prop :=
  box.length ≤ most ∧ (total weigh box ≤ limit ∨ box.length = 1)

/-- What packing keeps. -/
structure Packed (weigh : α → Nat) (limit most : Nat) (b : Boxes α) : Prop where
  weight : b.weight = total weigh b.last
  fits : ∀ box ∈ b.all, Fits weigh limit most box
  closed : ∀ box ∈ b.full, box ≠ []

section

variable {weigh : α → Nat} {limit most : Nat}

theorem Packed.empty : Packed weigh limit most (Boxes.empty : Boxes α) where
  weight := rfl
  fits := by simp [Fits]
  closed := by simp [Boxes.empty]

/-- After rolling, the open box is empty or has room for the item. -/
theorem Packed.roll {b : Boxes α} (h : Packed weigh limit most b) (w : Nat) :
    Packed weigh limit most (b.roll limit most w) ∧
      (total weigh (b.roll limit most w).last + w ≤ limit ∧
          (b.roll limit most w).last.length < most ∨
        (b.roll limit most w).weight = 0) := by
  unfold Boxes.roll
  split
  case isTrue hfull =>
    refine ⟨⟨rfl, ?_, ?_⟩, .inr rfl⟩
    · intro box hbox
      simp only [Boxes.all, List.mem_append, List.mem_singleton] at hbox
      obtain hbox | rfl := hbox
      · exact h.fits box (by simpa [Boxes.all] using hbox)
      · simp [Fits]
    · intro box hbox
      simp only [List.mem_append, List.mem_singleton] at hbox
      obtain hbox | rfl := hbox
      · exact h.closed box hbox
      · -- A box with weight is not empty.
        intro hnil
        apply hfull.1
        rw [h.weight, hnil, total_nil]
  case isFalse hroom =>
    refine ⟨h, ?_⟩
    have hweight := h.weight
    by_cases hzero : b.weight = 0
    · exact .inr hzero
    · exact .inl (by omega)

/-- One more item keeps the boxes packed, if every item has weight. -/
theorem Packed.add {b : Boxes α} (h : Packed weigh limit most b) (hpos : ∀ a, 0 < weigh a)
    (hmost : 0 < most) (a : α) : Packed weigh limit most (b.add limit most a (weigh a)) := by
  obtain ⟨hrolled, hroom⟩ := h.roll (weigh a)
  refine ⟨?_, ?_, hrolled.closed⟩
  · simp [Boxes.add, Boxes.put, hrolled.weight]
  · intro box hbox
    simp only [Boxes.all, Boxes.add, Boxes.put, List.mem_append, List.mem_singleton] at hbox
    obtain hbox | rfl := hbox
    · exact hrolled.fits box (by simp [Boxes.all, hbox])
    · rw [Fits, List.length_append, List.length_singleton, total_append, total_cons, total_nil]
      obtain ⟨hlimit, hlength⟩ | hzero := hroom
      · exact ⟨hlength, .inl hlimit⟩
      · have hlast := length_le_total hpos (b.roll limit most (weigh a)).last
        have hweight := hrolled.weight
        exact ⟨by omega, .inr (by omega)⟩

/-- There are no more boxes than items if no box is empty. -/
theorem length_le_length_flatten {boxes : List (List α)} (h : ∀ box ∈ boxes, box ≠ []) :
    boxes.length ≤ boxes.flatten.length := by
  induction boxes with
  | nil => simp
  | cons box boxes ih =>
    have hbox := List.length_pos_iff.mpr (h box (by simp))
    have hrest := ih fun box hmem => h box (by simp [hmem])
    simp only [List.flatten_cons, List.length_cons, List.length_append]
    omega

theorem length_flatten_le {boxes : List (List α)} (h : ∀ box ∈ boxes, box.length ≤ most) :
    boxes.flatten.length ≤ boxes.length * most := by
  induction boxes with
  | nil => simp
  | cons box boxes ih =>
    have hbox := h box (by simp)
    have hrest := ih fun box hmem => h box (by simp [hmem])
    rw [List.flatten_cons, List.length_append, List.length_cons, Nat.add_mul]
    omega

/-- At most one box, the open one, is there without an item. -/
theorem Packed.length_all_le {b : Boxes α} (h : Packed weigh limit most b) :
    b.all.length ≤ b.items.length + 1 := by
  have hfull := length_le_length_flatten h.closed
  rw [Boxes.length_all, Boxes.items_eq, List.length_append]
  omega

/-- There are enough boxes for the items. -/
theorem Packed.length_items_le {b : Boxes α} (h : Packed weigh limit most b) :
    b.items.length ≤ b.all.length * most :=
  length_flatten_le fun box hbox => (h.fits box hbox).1

end

end Packing
