import Chip8.Progress.Count

/-!
# Progress of a long run

A meter stands beside a loop of `total` rounds and moves a bar. Moving a bar
costs time, so it is moved only every `rate`-th round, and at the last one.

A host may start the bar away from zero, and may hide it. A hidden bar is asked
to move like any other but stays where it is, and there is nothing to close
(`events_hidden`).
-/

namespace Chip8.Progress

/-- The rate at which the bar is moved: what the host asks for, but at least
one and at most the number of rounds; without a wish one in twenty of the
rounds, but at most every fifty. -/
def rate (total : Int) (asked : Option Int) : Int :=
  match asked with
  | none => max 1 (min (total / 20) 50)
  | some r => max 1 (min r total)

/-- When a bar is shown. -/
inductive Visibility where
  | always
  | never
  /-- Where the host writes to a terminal. -/
  | onTerminal
deriving DecidableEq, Repr

/-- Whether a bar is shown by a host that does or does not write to a
terminal. -/
def Visibility.shown (terminal : Bool) : Visibility → Bool
  | always => true
  | never => false
  | onTerminal => terminal

/-- The bar: how many rounds there are, how often it moves, where it stands,
and whether it is shown. -/
structure Meter (α : Type) where
  total : Int
  rate : Int
  position : α
  shown : Bool
deriving DecidableEq, Repr

/-- What happens to a bar. -/
inductive Event (α : Type) where
  /-- It is asked to move; by nothing or backwards, if the rounds come in such
  an order. -/
  | move (distance : α)
  /-- It is closed where it stands. -/
  | close (position : α)
deriving DecidableEq, Repr

namespace Meter

variable {α : Type}

/-- A bar beside a loop, at a position of the host's choice. -/
def startAt (total : Int) (asked : Option Int) (position : α) (shown : Bool) : Meter α :=
  ⟨total, Progress.rate total asked, position, shown⟩

/-- A bar at the start of a loop, in sight. -/
def start (total : Int) (asked : Option Int) : Meter Int := startAt total asked 0 true

/-- Whether the bar is asked to move after round `i`, counted from zero. -/
def moves (m : Meter α) (i : Int) : Bool := (i + 1) % m.rate = 0 ∨ i + 1 = m.total

variable [Add α] [Sub α] [Count α]

/-- How far the bar is asked to move after round `i`, if it is asked at all. -/
def move? (m : Meter α) (i : Int) : Option α :=
  if m.moves i then some (Count.ofRounds (i + 1) - m.position) else none

/-- The bar after round `i`. -/
def update (m : Meter α) (i : Int) : Meter α :=
  match m.move? i with
  | some distance => if m.shown then { m with position := m.position + distance } else m
  | none => m

/-- What happens to a bar beside a loop that runs through some rounds and
ends. -/
def events : Meter α → List Int → List (Event α)
  | m, [] => if m.shown then [.close m.position] else []
  | m, i :: rounds => (m.move? i).toList.map .move ++ events (m.update i) rounds

/-- A round changes no more of a bar than where it stands. -/
theorem update_eq (m : Meter α) (i : Int) :
    m.update i = { m with position := (m.update i).position } := by
  unfold update
  split
  · split <;> rfl
  · rfl

theorem foldl_update_eq (m : Meter α) (rounds : List Int) :
    rounds.foldl update m = { m with position := (rounds.foldl update m).position } := by
  induction rounds generalizing m with
  | nil => rfl
  | cons i rounds ih => rw [List.foldl_cons, ih, update_eq]

/-- A hidden bar is asked to move from where it was started, again and again. -/
theorem events_hidden {m : Meter α} (h : m.shown = false) (rounds : List Int) :
    m.events rounds = (rounds.filterMap m.move?).map .move := by
  induction rounds with
  | nil => simp [events, h]
  | cons i rounds ih =>
    have still : m.update i = m := by
      unfold update
      split <;> simp [h]
    cases hm : m.move? i <;> simp [events, still, ih, hm]

/-- A bar in sight that counts in whole rounds stands, after a round that moves
it, where the loop is. -/
theorem position_update {m : Meter Int} (h : m.shown = true) (i : Int) :
    (m.update i).position = if m.moves i then i + 1 else m.position := by
  unfold update move?
  by_cases hm : m.moves i = true
  · simp only [hm, if_true, h, ofRounds_int]
    omega
  · simp [hm]

end Meter

theorem one_le_rate (total : Int) (asked : Option Int) : 1 ≤ rate total asked := by
  unfold rate
  split <;> omega

theorem rate_le (total : Int) (asked : Option Int) : rate total asked ≤ max 1 total := by
  unfold rate
  split <;> omega

end Chip8.Progress
