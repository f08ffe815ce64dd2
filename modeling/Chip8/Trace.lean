import Chip8.Layout

/-!
# The trace

The last sixteen instructions that were run, kept in a ring: a new record
takes the slot at the position, which is the oldest one once the ring is full.
`records` is the view, the oldest record first.
-/

namespace Chip8

/-- An instruction that was run: where it stood and its word. -/
structure Record where
  address : UInt16
  word : UInt16
deriving DecidableEq, Repr, Inhabited

/-- The ring, the slot that comes next, and the number of records. -/
structure Trace where
  slots : Vector Record 16
  position : Fin 16
  size : Fin 17
deriving DecidableEq, Repr

namespace Trace

/-- No record. -/
def empty : Trace := ⟨Vector.replicate 16 ⟨0, 0⟩, 0, 0⟩

/-- Adds a record. -/
def push (t : Trace) (r : Record) : Trace :=
  ⟨t.slots.set t.position r, t.position + 1, ⟨min (t.size + 1) 16, by omega⟩⟩

/-- The slot of the `k`-th record, counted from the oldest. -/
def slot (t : Trace) (k : Nat) : Fin 16 :=
  ⟨(t.position.val + 16 - t.size.val + k) % 16, by omega⟩

/-- The records, the oldest first. -/
def records (t : Trace) : List Record :=
  (List.range t.size).map fun k => t.slots[t.slot k]

@[simp] theorem records_empty : empty.records = [] := rfl

@[simp] theorem length_records (t : Trace) : t.records.length = t.size := by
  simp [records]

/-- A new record goes behind the others, and the oldest one makes room for it
if there were sixteen. -/
theorem records_push (t : Trace) (r : Record) :
    (t.push r).records = (t.records ++ [r]).drop (t.size + 1 - 16) := by
  obtain ⟨slots, ⟨p, hp⟩, ⟨n, hn⟩⟩ := t
  refine List.ext_getElem (by simp [push]; omega) fun k hk _ => ?_
  simp only [length_records, push] at hk
  simp only [records, push, slot, List.getElem_map, List.getElem_range, List.getElem_drop,
    List.getElem_append, List.length_map, List.length_range, Fin.getElem_fin,
    Vector.getElem_set, List.getElem_singleton, Fin.val_add]
  split <;> split
  · omega
  · rfl
  · congr 1
    simp
    omega
  · rename_i h h'
    simp at h
    omega

end Trace

end Chip8
