import Chip8.Proofs.StackView

/-!
# The call stack as a bounded stack

The bare operations of the call stack, asked for in any order, beside a list that
is asked for the same: there a push puts the low 16 bits of an address in front, and
a pop takes the front away. As long as no push finds sixteen addresses and no pop
none, stack and list give the same answers and stay the same
(`serveAll_eq_list`), over the wrap of the pointer when the last slot is taken. The
operations check none of this, so their law for every pointer is one on the depth:
it goes up and down by one, modulo 256 (`depth_push`, `depth_drop`).
-/

namespace Chip8.Stack

/-! ## Requests -/

/-- What a host asks of a stack. -/
inductive Request where
  | push (address : Int)
  | pop
deriving DecidableEq, Repr

namespace Request

/-- The answer of a stack, if a pop was asked for, and the stack afterwards. Only
the low 16 bits of an address are stored. -/
def serve (s : Stack) : Request → Option UInt16 × Stack
  | push address => (none, s.push (.ofInt address))
  | pop => (some s.pop.2, s.pop.1)

/-- The answer of a list whose front is its latest address, and the list afterwards. -/
def serveList (l : List UInt16) : Request → Option UInt16 × List UInt16
  | push address => (none, .ofInt address :: l)
  | pop => (l.head?, l.tail)

/-- Whether a list of sixteen addresses at most can serve a request. -/
def Fits (l : List UInt16) : Request → Prop
  | push _ => l.length < 16
  | pop => l ≠ []

instance (l : List UInt16) : (r : Request) → Decidable (r.Fits l)
  | push _ => inferInstanceAs (Decidable (l.length < 16))
  | pop => inferInstanceAs (Decidable (l ≠ []))

end Request

/-- Serves requests in their order: the answers, and what is left. -/
def serveAll {α : Type} (serve : α → Request → Option UInt16 × α) :
    α → List Request → List (Option UInt16) × α
  | a, [] => ([], a)
  | a, r :: rs =>
    let (answer, a) := serve a r
    let (answers, a) := serveAll serve a rs
    (answer :: answers, a)

/-- Whether a list can serve requests, each at its turn. -/
def FitAll : List UInt16 → List Request → Prop
  | _, [] => True
  | l, r :: rs => r.Fits l ∧ FitAll (r.serveList l).2 rs

instance decidableFitAll : (l : List UInt16) → (rs : List Request) → Decidable (FitAll l rs)
  | _, [] => inferInstanceAs (Decidable True)
  | l, r :: rs =>
    have := decidableFitAll (r.serveList l).2 rs
    inferInstanceAs (Decidable (_ ∧ _))

/-! ## Stack and list side by side -/

/-- A stack holds the addresses of a list, the latest first, with its pointer in
place, and what is read off the pointer agrees with the list. -/
structure Holds (s : Stack) (l : List UInt16) : Prop where
  contents : s.contents = l
  inPlace : s.InPlace
  depth : s.depth = l.length
  isFull : s.isFull = true ↔ l.length = 16
  isEmpty : s.isEmpty = true ↔ l.length = 0

theorem InPlace.holds {s : Stack} (h : s.InPlace) : s.Holds s.contents where
  contents := rfl
  inPlace := h
  depth := h.depth_eq
  isFull := h.isFull_iff
  isEmpty := h.isEmpty_iff.trans List.length_eq_zero_iff.symm

theorem Holds.push {s : Stack} {l : List UInt16} (h : s.Holds l) (hroom : l.length < 16)
    (a : UInt16) : (s.push a).Holds (a :: l) := by
  obtain rfl := h.contents
  rw [← h.inPlace.contents_push hroom a]
  exact (h.inPlace.push hroom a).holds

theorem Holds.pop {s : Stack} {a : UInt16} {l : List UInt16} (h : s.Holds (a :: l)) :
    s.pop.2 = a ∧ s.pop.1.Holds l := by
  have hne : s.contents ≠ [] := h.contents ▸ List.cons_ne_nil a l
  have hcons := (contents_eq_cons hne).symm.trans h.contents
  obtain ⟨htop, hdrop⟩ := List.cons.inj hcons
  exact ⟨htop, hdrop ▸ (inPlace_drop hne).holds⟩

/-- One request that fits gets the same answer, and stack and list stay together. -/
theorem Holds.serve {s : Stack} {l : List UInt16} (h : s.Holds l) {r : Request} (hr : r.Fits l) :
    (r.serve s).1 = (r.serveList l).1 ∧ (r.serve s).2.Holds (r.serveList l).2 := by
  cases r with
  | push address => exact ⟨rfl, h.push hr _⟩
  | pop =>
      obtain ⟨a, l, rfl⟩ := List.exists_cons_of_ne_nil hr
      obtain ⟨htop, hrest⟩ := h.pop
      exact ⟨congrArg some htop, hrest⟩

/-- Requests that fit get the same answers. -/
theorem Holds.serveAll {s : Stack} {l : List UInt16} (h : s.Holds l) {requests : List Request}
    (hfit : FitAll l requests) :
    (Stack.serveAll Request.serve s requests).1 =
        (Stack.serveAll Request.serveList l requests).1 ∧
      (Stack.serveAll Request.serve s requests).2.Holds
        (Stack.serveAll Request.serveList l requests).2 := by
  -- what one request keeps is all that the next one needs
  induction requests generalizing s l with
  | nil => exact ⟨rfl, h⟩
  | cons r requests ih =>
      obtain ⟨hanswer, hnext⟩ := h.serve hfit.1
      obtain ⟨hanswers, hlast⟩ := ih hnext hfit.2
      exact ⟨List.cons_eq_cons.mpr ⟨hanswer, hanswers⟩, hlast⟩

/-! ## Any pointer -/

theorem depth_push (s : Stack) (a : UInt16) : (s.push a).depth = (s.depth + 1) % 256 := by
  show (15 - (s.pointer - 1)).toNat = ((15 - s.pointer).toNat + 1) % 256
  have hlt := s.pointer.toNat_lt
  simp only [UInt8.toNat_sub, show (15 : UInt8).toNat = 15 from rfl,
    show (1 : UInt8).toNat = 1 from rfl]
  omega

theorem depth_drop (s : Stack) : s.drop.depth = (s.depth + 255) % 256 := by
  show (15 - (s.pointer + 1)).toNat = ((15 - s.pointer).toNat + 255) % 256
  have hlt := s.pointer.toNat_lt
  simp only [UInt8.toNat_sub, UInt8.toNat_add, show (15 : UInt8).toNat = 15 from rfl,
    show (1 : UInt8).toNat = 1 from rfl]
  omega

theorem pointer_drop_push (s : Stack) (a : UInt16) : (s.push a).drop.pointer = s.pointer :=
  UInt8.sub_add_cancel s.pointer 1

/-- A push writes to the slot that the pointer names, if to any. -/
theorem getElem_slots_push (s : Stack) (a : UInt16) {k : Nat} (hk : k < 16)
    (hne : k ≠ s.pointer.toNat) : (s.push a).slots[k] = s.slots[k] :=
  Vector.getElem_setIfInBounds_ne hk hne.symm

theorem InPlace.top_push {s : Stack} (h : s.InPlace) (hroom : s.contents.length < 16)
    (a : UInt16) : (s.push a).top = a :=
  (h.holds.push hroom a).pop.1

theorem toNat_ofInt (a : Int) : ((UInt16.ofInt a).toNat : Int) = a % 65536 := by
  rw [UInt16.ofInt, UInt16.toNat_ofNat']
  omega

/-- **The call stack is a list of at most sixteen addresses.** Its contents are the slots
behind the pointer. With the pointer in place, requests of any number get the answers that
the list of the contents gives, if none of them pushes on sixteen addresses or pops none:
a push puts the low 16 bits of an address in front, and a pop gives and removes the front.
After all of them, and so at every point between, the stack holds the list, its pointer
is in place, its depth is the length, and it is full at sixteen and empty at none. So a pop
takes back the push before it, answer, pointer, and slots except for the one that the
pointer named. Wherever the pointer stands, a push adds one to the depth and a
pop takes one away, modulo 256. -/
theorem serveAll_eq_list (s : Stack) :
    (s.InPlace → ∀ requests : List Request, FitAll s.contents requests →
      (serveAll Request.serve s requests).1 = (serveAll Request.serveList s.contents requests).1 ∧
        (serveAll Request.serve s requests).2.Holds
          (serveAll Request.serveList s.contents requests).2) ∧
    (∀ a : Int,
      (s.InPlace → s.contents.length < 16 →
        ((s.push (.ofInt a)).pop.2.toNat : Int) = a % 65536) ∧
      (s.push (.ofInt a)).pop.1.pointer = s.pointer ∧
      (∀ (k : Nat) (hk : k < 16), k ≠ s.pointer.toNat →
        (s.push (.ofInt a)).pop.1.slots[k] = s.slots[k]) ∧
      (s.push (.ofInt a)).depth = (s.depth + 1) % 256) ∧
    s.pop.1.depth = (s.depth + 255) % 256 := by
  refine ⟨fun h requests hfit => h.holds.serveAll hfit, fun a => ⟨fun h hroom => ?_,
    s.pointer_drop_push _, fun k hk hne => s.getElem_slots_push _ hk hne, s.depth_push _⟩,
    s.depth_drop⟩
  have htop : (s.push (.ofInt a)).pop.2 = .ofInt a := h.top_push hroom _
  rw [htop, toNat_ofInt]

/-- The last slot is taken and given back, with addresses of more than 16 bits and of
another sign. -/
theorem serveAll_eq_list_last_slot :
    let s : Stack := ⟨Vector.ofFn fun i => UInt16.ofNat (0x200 + i.val), 0⟩
    let requests : List Request := [.push 0x12345, .pop, .pop, .push (-1), .push 0x300]
    let t := (serveAll Request.serve s requests).2
    (serveAll Request.serve s requests).1 = [none, some 0x2345, some 0x201, none, none] ∧
      t.Holds (0x300 :: 0xFFFF :: s.contents.tail) ∧ t.pointer = 255 ∧ t.isFull = true := by
  intro s requests t
  have hplace : s.InPlace := .inl (by decide)
  obtain ⟨hanswers, hholds⟩ := (serveAll_eq_list s).1 hplace requests (by decide +kernel)
  exact ⟨hanswers.trans (by decide +kernel), hholds, by decide +kernel,
    hholds.isFull.mpr (by decide +kernel)⟩

end Chip8.Stack
