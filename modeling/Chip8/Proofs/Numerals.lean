import Chip8.Text.Decimal
import Chip8.Text.Hex

/-!
# Numerals

Hexadecimal and decimal text gives the number back that it shows, whatever the
width it is filled up to (`hexChars_injective`, `decimalChars_injective`), and a
hexadecimal number that fits its width has exactly this width
(`length_hexChars`). Digits are folded back into their number from the left;
zeros in front change nothing, and a sign is no digit.
-/

namespace Chip8.Text

/-- Digits to the base sixteen are below sixteen. -/
theorem exists_digitChar_of_mem {n : Nat} {c : Char} (h : c ∈ Nat.toDigits 16 n) :
    ∃ d < 16, c = Nat.digitChar d := by
  induction n using Nat.strongRecOn with
  | ind n ih =>
      rw [Nat.toDigits_eq_if (by decide)] at h
      split at h
      · rename_i hlt
        exact ⟨n, hlt, List.mem_singleton.mp h⟩
      · rename_i hge
        rcases List.mem_append.mp h with hhigh | hlow
        · exact ih (n / 16) (by omega) hhigh
        · exact ⟨n % 16, Nat.mod_lt n (by decide), List.mem_singleton.mp hlow⟩

/-- A character that is no capital digit stands in no row of them, filled up or
not. -/
theorem not_mem_leftpad_hexDigits {c : Char} (hc : ∀ d < 16, (Nat.digitChar d).toUpper ≠ c)
    (width n : Nat) : c ∉ (hexDigits n).leftpad width '0' := by
  intro h
  rcases List.mem_append.mp h with hzero | hdigit
  · exact hc 0 (by decide) (List.eq_of_mem_replicate hzero).symm
  · obtain ⟨a, ha, rfl⟩ := List.mem_map.mp hdigit
    obtain ⟨d, hd, rfl⟩ := exists_digitChar_of_mem ha
    exact hc d hd rfl

/-- The number that a row of capital digits stands for, if `v` stands in front
of it. -/
def hexValue (v : Nat) (digits : List Char) : Nat :=
  digits.foldl (fun v c => 16 * v + (c.toNat - if c.isDigit then 48 else 55)) v

theorem hexValue_append (v : Nat) (high low : List Char) :
    hexValue v (high ++ low) = hexValue (hexValue v high) low :=
  List.foldl_append

theorem hexValue_digit {d : Nat} (hd : d < 16) (v : Nat) :
    hexValue v [(Nat.digitChar d).toUpper] = 16 * v + d := by
  have hdigits : ∀ d < 16, (Nat.digitChar d).toUpper.toNat -
      (if (Nat.digitChar d).toUpper.isDigit then 48 else 55) = d := by
    decide
  exact congrArg (16 * v + ·) (hdigits d hd)

theorem hexValue_hexDigits (n : Nat) : hexValue 0 (hexDigits n) = n := by
  induction n using Nat.strongRecOn with
  | ind n ih =>
      rw [hexDigits, Nat.toDigits_eq_if (by decide)]
      split
      · rename_i hlt
        simpa using hexValue_digit hlt 0
      · rename_i hge
        have hhigh : hexValue 0 (hexDigits (n / 16)) = n / 16 := ih (n / 16) (by omega)
        rw [hexDigits] at hhigh
        rw [List.map_append, hexValue_append, hhigh, List.map_singleton,
          hexValue_digit (Nat.mod_lt n (by decide))]
        omega

/-- Zeros in front do not change the number. -/
theorem hexValue_leftpad (width : Nat) (digits : List Char) :
    hexValue 0 (digits.leftpad width '0') = hexValue 0 digits := by
  have hzeros : ∀ k, hexValue 0 (List.replicate k '0') = 0 := by
    intro k
    induction k with
    | zero => rfl
    | succ k ih => exact ih
  rw [List.leftpad, hexValue_append, hzeros]

theorem leftpad_hexDigits_injective {width m n : Nat}
    (h : (hexDigits m).leftpad width '0' = (hexDigits n).leftpad width '0') : m = n := by
  have hvalue := congrArg (hexValue 0) h
  simpa only [hexValue_leftpad, hexValue_hexDigits] using hvalue

/-- Different integers have different hexadecimal texts. -/
theorem hexChars_injective {width : Nat} {v w : Int} (h : hexChars width v = hexChars width w) :
    v = w := by
  have hsign : ∀ k m ds, (hexDigits m).leftpad k '0' ≠ '-' :: ds := by
    intro k m ds heq
    refine not_mem_leftpad_hexDigits (c := '-') (by decide) k m ?_
    rw [heq]
    exact List.mem_cons_self
  unfold hexChars at h
  split at h <;> split at h
  · have hdigits := leftpad_hexDigits_injective (List.cons.inj h).2
    omega
  · exact absurd h.symm (hsign _ _ _)
  · exact absurd h (hsign _ _ _)
  · have hdigits := leftpad_hexDigits_injective h
    omega

/-- Smaller numbers have no more digits. -/
theorem length_hexDigits_mono {m n : Nat} (h : m ≤ n) :
    (hexDigits m).length ≤ (hexDigits n).length := by
  simp only [hexDigits, List.length_map]
  have hpos : 0 < (Nat.toDigits 16 n).length := Nat.length_toDigits_pos
  apply (Nat.length_toDigits_le_iff (by decide) hpos).mpr
  exact Nat.lt_of_le_of_lt h
    ((Nat.length_toDigits_le_iff (by decide) hpos).mp (Nat.le_refl _))

/-- A number whose digits fit a width is as wide. -/
theorem length_hexChars {width : Nat} {v : Int} (h0 : 0 ≤ v)
    (hfits : (hexDigits v.natAbs).length ≤ width) : (hexChars width v).length = width := by
  rw [hexChars, if_neg (by omega), List.leftpad, List.length_append, List.length_replicate]
  omega

/-- Different integers have different decimal texts. -/
theorem decimalChars_injective {v w : Int} (h : decimalChars v = decimalChars w) : v = w := by
  have hdigits : ∀ m n, Nat.toDigits 10 m = Nat.toDigits 10 n → m = n := by
    intro m n heq
    have hvalue := congrArg (Nat.ofDigitChars 10 · 0) heq
    simpa using hvalue
  have hsign : ∀ m ds, Nat.toDigits 10 m ≠ '-' :: ds := by
    intro m ds heq
    have hdigit : '-'.isDigit = true := by
      refine Nat.isDigit_of_mem_toDigits (b := 10) (n := m) (by decide) (by decide) ?_
      rw [heq]
      exact List.mem_cons_self
    exact absurd hdigit (by decide)
  unfold decimalChars signed at h
  simp only [decide_eq_true_eq] at h
  split at h <;> split at h
  · have := hdigits _ _ (List.cons.inj h).2
    omega
  · exact absurd h.symm (hsign _ _)
  · exact absurd h (hsign _ _)
  · have := hdigits _ _ h
    omega

end Chip8.Text
