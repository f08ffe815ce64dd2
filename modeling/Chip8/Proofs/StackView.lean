import Chip8.Stack

/-!
# The call stack as a list

Seen through `Stack.contents` the slots and the pointer are a list of at most
sixteen addresses, the latest first. This holds as long as the pointer is in
place, that is, names a slot or stands one below the last one, which as a byte
is 255. A push on a list with room adds an address in front, a drop takes the
front away, and both keep the pointer in place; the depth that is read off the
pointer is the length of the list.
-/

namespace Chip8.Stack

/-- The pointer names a slot, or the place below the last one. -/
def InPlace (s : Stack) : Prop := s.pointer.toNat ≤ 15 ∨ s.pointer = 255

theorem inPlace_empty : empty.InPlace := .inl (Nat.le_refl 15)

theorem length_contents (s : Stack) : s.contents.length = 16 - (s.pointer + 1).toNat := by
  simp [contents]

theorem length_contents_le (s : Stack) : s.contents.length ≤ 16 := by
  rw [length_contents]
  exact Nat.sub_le _ _

theorem toNat_pointer_succ (s : Stack) :
    (s.pointer + 1).toNat = (s.pointer.toNat + 1) % 256 := by
  rw [UInt8.toNat_add]
  rfl

/-- The depth that is read off the pointer counts the addresses. -/
theorem InPlace.depth_eq {s : Stack} (h : s.InPlace) : s.depth = s.contents.length := by
  rw [length_contents, depth]
  rcases h with h | h
  · have hsucc := s.toNat_pointer_succ
    rw [UInt8.toNat_sub, show (15 : UInt8).toNat = 15 from rfl]
    omega
  · rw [h]
    decide

theorem InPlace.isFull_iff {s : Stack} (h : s.InPlace) :
    s.isFull = true ↔ s.contents.length = 16 := by
  have hle := s.length_contents_le
  rw [isFull, h.depth_eq, decide_eq_true_eq]
  omega

theorem InPlace.isEmpty_iff {s : Stack} (h : s.InPlace) :
    s.isEmpty = true ↔ s.contents = [] := by
  rw [isEmpty, h.depth_eq, decide_eq_true_eq, List.length_eq_zero_iff]

theorem InPlace.isFull_eq_false_iff {s : Stack} (h : s.InPlace) :
    s.isFull = false ↔ s.contents.length < 16 := by
  have hle := s.length_contents_le
  rw [Bool.eq_false_iff, ne_eq, h.isFull_iff]
  omega

theorem InPlace.isEmpty_eq_false_iff {s : Stack} (h : s.InPlace) :
    s.isEmpty = false ↔ s.contents ≠ [] := by
  rw [Bool.eq_false_iff, ne_eq, h.isEmpty_iff]

theorem InPlace.pointer_le {s : Stack} (h : s.InPlace) (hroom : s.contents.length < 16) :
    s.pointer.toNat ≤ 15 := by
  rcases h with h | h
  · exact h
  · rw [length_contents, h] at hroom
    exact absurd hroom (by decide)

/-- A push with room left puts the address in front. -/
theorem InPlace.contents_push {s : Stack} (h : s.InPlace) (hroom : s.contents.length < 16)
    (a : UInt16) : (s.push a).contents = a :: s.contents := by
  have hle := h.pointer_le hroom
  have hslot : s.pointer.toNat < (s.slots.toList.set s.pointer.toNat a).length := by
    rw [List.length_set, Vector.length_toList]
    omega
  have hnext : (s.pointer + 1).toNat = s.pointer.toNat + 1 := by
    rw [toNat_pointer_succ]
    omega
  -- the slot that was written is the one that the new pointer stands below
  have hback : s.pointer - 1 + 1 = s.pointer := UInt8.sub_add_cancel s.pointer 1
  show (s.slots.setIfInBounds s.pointer.toNat a).toList.drop (s.pointer - 1 + 1).toNat =
    a :: s.slots.toList.drop (s.pointer + 1).toNat
  rw [hback, hnext, Vector.toList_setIfInBounds, List.drop_eq_getElem_cons hslot,
    List.getElem_set_self, List.drop_set_of_lt (Nat.lt_succ_self _)]

theorem InPlace.push {s : Stack} (h : s.InPlace) (hroom : s.contents.length < 16) (a : UInt16) :
    (s.push a).InPlace := by
  have hle := h.pointer_le hroom
  show (s.pointer - 1).toNat ≤ 15 ∨ s.pointer - 1 = 255
  have hpred : (s.pointer - 1).toNat = (255 + s.pointer.toNat) % 256 := by
    rw [UInt8.toNat_sub]
    rfl
  by_cases h0 : s.pointer.toNat = 0
  · -- the last slot is taken and the pointer wraps
    refine .inr (UInt8.toNat_inj.mp ?_)
    rw [hpred, h0]
    rfl
  · refine .inl ?_
    omega

/-- With an address left the slot above the pointer exists. -/
theorem succ_pointer_le {s : Stack} (hne : s.contents ≠ []) : (s.pointer + 1).toNat ≤ 15 := by
  have hpos := List.length_pos_iff.mpr hne
  rw [length_contents] at hpos
  omega

/-- With an address left, that slot holds the front, and a drop leaves the
rest. -/
theorem contents_eq_cons {s : Stack} (hne : s.contents ≠ []) :
    s.contents = s.top :: s.drop.contents := by
  have hle := succ_pointer_le hne
  have hslot : (s.pointer + 1).toNat < s.slots.toList.length := by
    rw [Vector.length_toList]
    omega
  have hlt : (s.pointer + 1).toNat + 1 < 256 := by omega
  have hnext : (s.pointer + 1 + 1).toNat = (s.pointer + 1).toNat + 1 :=
    s.drop.toNat_pointer_succ.trans (Nat.mod_eq_of_lt hlt)
  show s.slots.toList.drop (s.pointer + 1).toNat =
    s.slots[min (s.pointer + 1).toNat 15] :: s.slots.toList.drop (s.pointer + 1 + 1).toNat
  rw [List.drop_eq_getElem_cons hslot, hnext]
  simp only [Nat.min_eq_left hle, Vector.getElem_toList]

theorem inPlace_drop {s : Stack} (hne : s.contents ≠ []) : s.drop.InPlace :=
  .inl (succ_pointer_le hne)

end Chip8.Stack
