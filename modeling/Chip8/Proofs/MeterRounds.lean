import Chip8.Progress.Meter
import Mathlib.Data.Rat.Floor
import Mathlib.Tactic.Linarith

/-!
# A bar beside its loop

A bar in sight that starts with its loop stands at the last multiple of its rate
that the loop has reached, and has been moved once for each (`Meter.InStep`). A
step of the loop keeps that, until the last round moves the bar to the end. So the
bar never runs ahead of the loop, and is full when the loop is over
(`bar_never_ahead_and_completes`).
-/

namespace Chip8.Progress

/-- The first rounds of a loop. -/
def firstRounds (k : Nat) : List Int := (List.range k).map Int.ofNat

theorem firstRounds_succ (k : Nat) : firstRounds (k + 1) = firstRounds k ++ [(k : Int)] := by
  simp [firstRounds, List.range_succ]

namespace Meter

section

variable {α : Type} [Add α] [Sub α] [Count α]

/-- How far a bar is asked to move in a run through some rounds, with an entry for each
time that it is asked. -/
def distances : Meter α → List Int → List α
  | _, [] => []
  | m, i :: rounds => (m.move? i).toList ++ distances (m.update i) rounds

theorem distances_append (m : Meter α) (rounds more : List Int) :
    m.distances (rounds ++ more) =
      m.distances rounds ++ (rounds.foldl update m).distances more := by
  induction rounds generalizing m with
  | nil => rfl
  | cons i rounds ih => simp [distances, ih]

theorem shown_update (m : Meter α) (i : Int) : (m.update i).shown = m.shown := by
  rw [update_eq]

/-- A bar in sight is asked to move, and then closed. -/
theorem events_eq {m : Meter α} (hshown : m.shown = true) (rounds : List Int) :
    m.events rounds =
      (m.distances rounds).map .move ++ [.close (rounds.foldl update m).position] := by
  induction rounds generalizing m with
  | nil => simp [events, distances, hshown]
  | cons i rounds ih =>
    simp [events, distances, ih ((shown_update m i).trans hshown)]

end

variable {m : Meter Int} {k : Nat}

/-- The distances add up to the way that the bar has come. -/
theorem sum_distances (hshown : m.shown = true) (rounds : List Int) :
    (m.distances rounds).sum = (rounds.foldl update m).position - m.position := by
  induction rounds generalizing m with
  | nil => simp [distances]
  | cons i rounds ih =>
    have hstep : (m.move? i).toList.sum = (m.update i).position - m.position := by
      rw [position_update hshown, move?]
      split <;> simp
    rw [distances, List.sum_append, ih ((shown_update m i).trans hshown), hstep, List.foldl_cons]
    omega

/-! ### The first rounds -/

/-- The bar after the first rounds. -/
def after (m : Meter Int) (k : Nat) : Meter Int := (firstRounds k).foldl update m

/-- How far the bar is asked to move in the first rounds. -/
def moved (m : Meter Int) (k : Nat) : List Int := m.distances (firstRounds k)

theorem after_eq (m : Meter Int) (k : Nat) :
    m.after k = { m with position := (m.after k).position } :=
  foldl_update_eq m _

theorem moves_after (m : Meter Int) (k : Nat) (i : Int) : (m.after k).moves i = m.moves i := by
  rw [after_eq]
  rfl

theorem position_after_succ (hshown : m.shown = true) (k : Nat) :
    (m.after (k + 1)).position = if m.moves k then (k : Int) + 1 else (m.after k).position := by
  have hshown' : (m.after k).shown = true := by rw [after_eq]; exact hshown
  have hsucc : m.after (k + 1) = (m.after k).update k := by simp [after, firstRounds_succ]
  rw [hsucc, position_update hshown', moves_after]

theorem moved_succ (m : Meter Int) (k : Nat) :
    m.moved (k + 1) =
      m.moved k ++ if m.moves k then [(k : Int) + 1 - (m.after k).position] else [] := by
  have hmove : ((m.after k).move? k).toList =
      if m.moves k then [(k : Int) + 1 - (m.after k).position] else [] := by
    rw [move?, moves_after]
    split <;> rfl
  simpa [moved, firstRounds_succ, distances_append, distances, after] using hmove

/-- A bar in sight that starts with its loop and moves at some rate. -/
structure Fresh (m : Meter Int) : Prop where
  shown : m.shown = true
  position : m.position = 0
  rate : 0 < m.rate

theorem fresh_start (n : Int) (asked : Option Int) : (start n asked).Fresh :=
  ⟨rfl, rfl, one_le_rate n asked⟩

/-- Where the bar is after the first rounds: it stands at the last multiple of its rate
that the loop has reached, and has been moved forward for each of them. -/
structure InStep (m : Meter Int) (k : Nat) : Prop where
  position : (m.after k).position = m.rate * (m.moved k).length
  reached : m.rate * (m.moved k).length ≤ k
  next : (k : Int) < m.rate * ((m.moved k).length + 1)
  forward : ∀ d ∈ m.moved k, 0 < d

namespace InStep

theorem position_le (h : m.InStep k) : (m.after k).position ≤ k := h.position ▸ h.reached

theorem length_moved (h : m.InStep k) (hrate : 0 < m.rate) :
    ((m.moved k).length : Int) = k / m.rate := by
  have hlow : ((m.moved k).length : Int) ≤ k / m.rate := by
    rw [Int.le_ediv_iff_mul_le hrate, Int.mul_comm]
    exact h.reached
  have hhigh : (k : Int) / m.rate < (m.moved k).length + 1 := by
    rw [Int.ediv_lt_iff_lt_mul hrate, Int.mul_comm]
    exact h.next
  omega

/-- The next multiple of the rate is the only one that the next round can reach. -/
theorem dvd_iff (h : m.InStep k) (hrate : 0 < m.rate) :
    ((k : Int) + 1) % m.rate = 0 ↔ (k : Int) + 1 = m.rate * ((m.moved k).length + 1) := by
  constructor
  · intro hdvd
    obtain ⟨c, hc⟩ := Int.dvd_of_emod_eq_zero hdvd
    have hlow : ((m.moved k).length : Int) < c :=
      lt_of_mul_lt_mul_left (by have := h.reached; omega) hrate.le
    have hhigh : c < (m.moved k).length + 2 :=
      lt_of_mul_lt_mul_left (by have := h.next; rw [← hc]; linarith) hrate.le
    rw [hc, show c = (m.moved k).length + 1 by omega]
  · intro heq
    rw [heq, Int.mul_emod_right]

/-- A move goes forward, since the bar is behind the loop. -/
theorem forward_succ (h : m.InStep k) : ∀ d ∈ m.moved (k + 1), 0 < d := by
  intro d hd
  rw [moved_succ, List.mem_append] at hd
  obtain hd | hd := hd
  · exact h.forward d hd
  · have hbehind := h.position_le
    split at hd
    · rw [List.mem_singleton] at hd
      omega
    · exact absurd hd List.not_mem_nil

theorem succ (h : m.InStep k) (hfresh : m.Fresh) (hnotLast : (k : Int) + 1 ≠ m.total) :
    m.InStep (k + 1) := by
  have hmoves : m.moves k = decide ((k : Int) + 1 = m.rate * ((m.moved k).length + 1)) := by
    simp only [moves, h.dvd_iff hfresh.rate, hnotLast, or_false]
  have hposition := position_after_succ hfresh.shown k
  have hmoved := moved_succ m k
  by_cases hnext : (k : Int) + 1 = m.rate * ((m.moved k).length + 1)
  · simp only [hmoves, hnext, decide_true, if_true] at hposition hmoved
    have hlength : ((m.moved (k + 1)).length : Int) = (m.moved k).length + 1 := by simp [hmoved]
    exact {
      position := by rw [hposition, hlength]
      reached := by rw [hlength, ← hnext]; omega
      next := by have := hfresh.rate; rw [hlength]; push_cast; linarith
      forward := h.forward_succ }
  · simp only [hmoves, hnext, decide_false, Bool.false_eq_true, if_false, List.append_nil]
      at hposition hmoved
    exact {
      position := by rw [hposition, hmoved, h.position]
      reached := by have := h.reached; rw [hmoved]; push_cast; omega
      next := by have := h.next; rw [hmoved]; push_cast; omega
      forward := h.forward_succ }

end InStep

/-- Before its last round, a loop and its bar are in step. -/
theorem inStep_of_lt (hfresh : m.Fresh) (hk : k = 0 ∨ (k : Int) < m.total) : m.InStep k := by
  induction k with
  | zero =>
    have hrate := hfresh.rate
    have hmoved : m.moved 0 = [] := rfl
    exact {
      position := by rw [hmoved]; simpa [after, firstRounds] using hfresh.position
      reached := by simp [hmoved]
      next := by simpa [hmoved] using hrate
      forward := by simp [hmoved] }
  | succ k ih => exact (ih (by omega)).succ hfresh (by omega)

/-- The last round moves the bar to the end. -/
theorem position_after_last (hfresh : m.Fresh) (hk : (k : Int) + 1 = m.total) :
    (m.after (k + 1)).position = m.total := by
  have hmoves : m.moves k = true := by simp [moves, hk]
  rw [position_after_succ hfresh.shown, hmoves, if_pos rfl, hk]

/-- A whole loop moves the bar once for each multiple of the rate, the last of which it may
not quite reach. -/
theorem length_moved_last (hfresh : m.Fresh) (hk : (k : Int) + 1 = m.total) :
    ((m.moved (k + 1)).length : Int) = ⌈(m.total : ℚ) / m.rate⌉ := by
  have hstep : m.InStep k := inStep_of_lt hfresh (.inr (by omega))
  have hmoves : m.moves k = true := by simp [moves, hk]
  have hlength : ((m.moved (k + 1)).length : Int) = (m.moved k).length + 1 := by
    simp [moved_succ, hmoves]
  have hrate : (0 : ℚ) < m.rate := by exact_mod_cast hfresh.rate
  have hlow : m.rate * ((m.moved k).length : Int) < m.total := by have := hstep.reached; omega
  have hhigh : m.total ≤ m.rate * (((m.moved k).length : Int) + 1) := by have := hstep.next; omega
  symm
  rw [Int.ceil_eq_iff, hlength, lt_div_iff₀ hrate, div_le_iff₀ hrate]
  constructor
  · rw [Int.cast_add, Int.cast_one, add_sub_cancel_right, mul_comm]
    exact_mod_cast hlow
  · rw [mul_comm]
    exact_mod_cast hhigh

/-! ### Any run -/

variable (hfresh : m.Fresh) (hk : (k : Int) ≤ max m.total 0)

include hfresh hk

theorem position_after :
    (m.after k).position =
      if (k : Int) = m.total ∧ 1 ≤ m.total then m.total else m.rate * (k / m.rate) := by
  split
  case isTrue hlast =>
    obtain ⟨j, rfl⟩ : ∃ j, k = j + 1 := ⟨k - 1, by omega⟩
    exact position_after_last hfresh (by omega)
  case isFalse hbefore =>
    have hstep : m.InStep k := inStep_of_lt hfresh (by omega)
    rw [hstep.position, hstep.length_moved hfresh.rate]

theorem position_after_le : (m.after k).position ≤ k := by
  have hrate := hfresh.rate
  rw [position_after hfresh hk]
  split
  · omega
  · exact Int.mul_ediv_self_le hrate.ne'

theorem forward_moved : ∀ d ∈ m.moved k, 0 < d := by
  by_cases hlast : (k : Int) = m.total ∧ 1 ≤ m.total
  · obtain ⟨j, rfl⟩ : ∃ j, k = j + 1 := ⟨k - 1, by omega⟩
    exact (inStep_of_lt hfresh (by omega)).forward_succ
  · exact (inStep_of_lt hfresh (by omega)).forward

end Meter

open Meter

/-- Beside the first `k` rounds of a loop of `n`, a bar is never ahead of the loop, only goes
forward, and is closed once, at the end. It stands at the last multiple of its rate, and at
`n` when the loop is over. That takes it as many moves as `n` divided by the rate, rounded
up. -/
theorem bar_never_ahead_and_completes (n : Int) (asked : Option Int) (k : Nat)
    (hk : (k : Int) ≤ max n 0) :
    (1 ≤ rate n asked ∧ rate n asked ≤ max 1 n) ∧
    (∀ i < k, ((start n asked).after (i + 1)).position ≤ i + 1) ∧
    ((start n asked).after k).position =
      (if (k : Int) = n ∧ 1 ≤ n then n else rate n asked * (k / rate n asked)) ∧
    ∃ distances : List Int,
      (start n asked).events (firstRounds k) =
        distances.map .move ++ [.close ((start n asked).after k).position] ∧
      (∀ d ∈ distances, 0 < d) ∧
      distances.sum = ((start n asked).after k).position ∧
      ((k : Int) = n → 1 ≤ n →
        (distances.length : Int) = ⌈(n : ℚ) / rate n asked⌉ ∧ distances.sum = n) := by
  have hfresh := fresh_start n asked
  have hposition : ((start n asked).after k).position =
      if (k : Int) = n ∧ 1 ≤ n then n else rate n asked * (k / rate n asked) :=
    position_after hfresh hk
  have hsum : ((start n asked).moved k).sum = ((start n asked).after k).position :=
    (sum_distances rfl _).trans (Int.sub_zero _)
  refine ⟨⟨one_le_rate n asked, rate_le n asked⟩, ?_, hposition, ?_⟩
  · intro i hi
    have hround : ((i + 1 : Nat) : Int) ≤ max n 0 := by omega
    exact position_after_le hfresh hround
  · refine ⟨(start n asked).moved k, events_eq rfl _, forward_moved hfresh hk, hsum, ?_⟩
    intro hover hsome
    obtain ⟨j, rfl⟩ : ∃ j, k = j + 1 := ⟨k - 1, by omega⟩
    exact ⟨length_moved_last hfresh hover, by rw [hsum, hposition, if_pos ⟨hover, hsome⟩]⟩

/-- Seven rounds with a bar that moves every third: it is moved by three, by three and by one.
After five of the rounds it stands at three. -/
theorem bar_never_ahead_and_completes_seven_by_three :
    ((7 : Nat) : Int) ≤ max 7 0 ∧ rate 7 (some 3) = 3 ∧
    ((start 7 (some 3)).after 7).position = 7 ∧ ((start 7 (some 3)).after 5).position = 3 ∧
    (∃ distances : List Int,
      (start 7 (some 3)).events (firstRounds 7) = distances.map .move ++ [.close 7] ∧
      (distances.length : Int) = ⌈((7 : Int) : ℚ) / (3 : Int)⌉ ∧ distances.sum = 7) ∧
    (start 7 (some 3)).events (firstRounds 7) = [.move 3, .move 3, .move 1, .close 7] := by
  have hrate : rate 7 (some 3) = 3 := by decide
  obtain ⟨-, -, hfull, distances, hevents, -, -, hcount⟩ :=
    bar_never_ahead_and_completes 7 (some 3) 7 (by decide)
  obtain ⟨-, -, hcut, -⟩ := bar_never_ahead_and_completes 7 (some 3) 5 (by decide)
  rw [hfull] at hevents
  rw [hrate] at hcount
  exact ⟨by decide, hrate, hfull, hcut, ⟨distances, hevents, hcount (by decide) (by decide)⟩,
    by decide⟩

end Chip8.Progress
