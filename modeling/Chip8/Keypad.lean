/-!
# The keypad

Sixteen keys, each up or down.
-/

namespace Chip8

/-- Which keys are down. -/
structure Keypad where
  keys : Vector Bool 16
deriving DecidableEq, Repr

namespace Keypad

/-- All keys up. -/
def allUp : Keypad := ⟨Vector.replicate 16 false⟩

/-- Whether a key is down. -/
def isDown (k : Keypad) (key : Fin 16) : Bool := k.keys[key]

/-- Puts a key down or up. -/
def set (k : Keypad) (key : Fin 16) (down : Bool) : Keypad := ⟨k.keys.set key down⟩

/-- The key of the lowest number that is down. -/
def lowest? (k : Keypad) : Option (Fin 16) := (List.finRange 16).find? k.isDown

theorem isDown_set (k : Keypad) (key : Fin 16) (down : Bool) (other : Fin 16) :
    (k.set key down).isDown other = if key = other then down else k.isDown other := by
  simp [set, isDown, Vector.getElem_set, Fin.ext_iff]

theorem lowest?_eq_none_iff {k : Keypad} : k.lowest? = none ↔ ∀ key, k.isDown key = false := by
  simp [lowest?]

/-- The key of the lowest number is down, and those below it are up. -/
theorem lowest?_eq_some_iff {k : Keypad} {key : Fin 16} :
    k.lowest? = some key ↔ k.isDown key = true ∧ ∀ other < key, k.isDown other = false := by
  rw [lowest?, List.find?_eq_some_iff_getElem]
  simp only [List.getElem_finRange, List.length_finRange, Bool.not_eq_true']
  constructor
  · rintro ⟨hdown, i, hi, rfl, hup⟩
    exact ⟨hdown, fun other hlt => hup other hlt⟩
  · rintro ⟨hdown, hup⟩
    exact ⟨hdown, key, key.isLt, rfl, fun j hj => hup ⟨j, by omega⟩ hj⟩

/-- Two keypads with the same keys down are equal. -/
theorem ext_isDown {k k' : Keypad} (h : ∀ key, k.isDown key = k'.isDown key) : k = k' := by
  obtain ⟨keys⟩ := k
  obtain ⟨keys'⟩ := k'
  congr
  exact Vector.ext fun i hi => h ⟨i, hi⟩

end Keypad

end Chip8
