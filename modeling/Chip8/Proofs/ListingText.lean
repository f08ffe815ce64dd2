import Chip8.Proofs.Listed
import Chip8.Proofs.LineText

/-!
# Reading a listing back

Nothing is lost in a listing: a line tells its address and its code, and a whole
listing its program and where that starts (`Listing.listing_tells_program`). A line
is read from the left. Its address ends at the first dash that is no sign, its code
at the first blank, and behind an address any two texts that go on with a dash can
be told apart at the dash (`Text.hexChars_append_dash`). The line of a single byte
has fewer characters in front of its blank than a line of a word can have, so the
one is never taken for the other.
-/

namespace Chip8

namespace Text

section Separated

variable {α : Type} {a : α} {xs ys us vs : List α}

/-- A row of items is told by what comes behind it, if that begins with an item which
is not in the row. -/
theorem append_separated (hx : a ∉ xs) (hy : a ∉ ys) (h : xs ++ a :: us = ys ++ a :: vs) :
    xs = ys ∧ us = vs := by
  induction xs generalizing ys with
  | nil =>
      cases ys with
      | nil => exact ⟨rfl, (List.cons.inj h).2⟩
      | cons y ys => exact absurd ((List.cons.inj h).1 ▸ List.mem_cons_self) hy
  | cons x xs ih =>
      cases ys with
      | nil => exact absurd ((List.cons.inj h).1 ▸ List.mem_cons_self) hx
      | cons y ys =>
          obtain ⟨rfl, hrest⟩ := List.cons.inj h
          obtain ⟨rfl, htail⟩ := ih (fun hmem => hx (List.mem_cons_of_mem _ hmem))
            (fun hmem => hy (List.mem_cons_of_mem _ hmem)) hrest
          exact ⟨rfl, htail⟩

end Separated

theorem dash_not_mem_leftpad (width n : Nat) : '-' ∉ (hexDigits n).leftpad width '0' :=
  not_mem_leftpad_hexDigits (by decide) width n

/-- The digits of a number behind a dash do not begin with a dash, and there is at
least one. -/
theorem leftpad_append_ne_dash {width n : Nat} {us vs : List Char} :
    (hexDigits n).leftpad width '0' ++ us ≠ '-' :: vs := by
  intro h
  have hnonempty : (hexDigits n).leftpad width '0' ≠ [] := by
    have hdigits : 0 < (hexDigits n).length := by
      rw [hexDigits, List.length_map]
      exact Nat.length_toDigits_pos
    exact List.ne_nil_of_length_pos (by rw [List.length_leftpad]; omega)
  obtain ⟨d, ds, hds⟩ := List.exists_cons_of_ne_nil hnonempty
  rw [hds] at h
  have hdash : d = '-' := (List.cons.inj h).1
  refine dash_not_mem_leftpad width n ?_
  rw [hds, hdash]
  exact List.mem_cons_self

/-- A number in hexadecimal is told from a text that goes on with a dash, although it
may begin with one. -/
theorem hexChars_append_dash {width : Nat} {v w : Int} {us vs : List Char}
    (h : hexChars width v ++ '-' :: us = hexChars width w ++ '-' :: vs) : v = w ∧ us = vs := by
  unfold hexChars at h
  split at h <;> split at h
  · obtain ⟨hdigits, hrest⟩ := append_separated (dash_not_mem_leftpad _ _)
      (dash_not_mem_leftpad _ _) (List.cons.inj h).2
    have habs := leftpad_hexDigits_injective hdigits
    exact ⟨by omega, hrest⟩
  · exact absurd h.symm leftpad_append_ne_dash
  · exact absurd h leftpad_append_ne_dash
  · obtain ⟨hdigits, hrest⟩ := append_separated (dash_not_mem_leftpad _ _)
      (dash_not_mem_leftpad _ _) h
    have habs := leftpad_hexDigits_injective hdigits
    exact ⟨by omega, hrest⟩

/-- A byte has two digits. -/
theorem length_hexChars_byte (b : UInt8) : (hexChars 2 b.toNat).length = 2 := by
  have hb := b.toNat_lt
  have hdigits : (hexDigits b.toNat).length ≤ (hexDigits 255).length :=
    length_hexDigits_mono (by omega)
  have htwo : (hexDigits 255).length = 2 := by decide
  exact length_hexChars (by omega) (Nat.le_trans hdigits (Nat.le_of_eq htwo))

end Text

open Text

/-- A word tells its bytes. -/
theorem wordOfBytes_inj {high low high' low' : UInt8}
    (h : wordOfBytes high low = wordOfBytes high' low') : high = high' ∧ low = low' := by
  have hlow := low.toNat_lt
  have hlow' := low'.toNat_lt
  have hvalue := congrArg UInt16.toNat h
  rw [toNat_wordOfBytes, toNat_wordOfBytes] at hvalue
  exact ⟨UInt8.toNat_inj.mp (by omega), UInt8.toNat_inj.mp (by omega)⟩

namespace Listing

/-! ## Lines -/

/-- A line of a word, from the left. -/
theorem lineChars_eq (a : Int) (c : Code) :
    lineChars a c = hexChars 3 a ++ '-' :: (hexChars 4 c ++ ' ' :: textChars c) := by
  simp only [lineChars, List.append_assoc, List.cons_append]

/-- A line of a byte, from the left. -/
theorem byteLineChars_eq (a : Int) (b : UInt8) :
    byteLineChars a b =
      hexChars 3 a ++ '-' :: (hexChars 2 b.toNat ++ ' ' :: ("  DB   #".toList ++
        hexChars 2 b.toNat)) := by
  have hgap : "   DB   #".toList = ' ' :: "  DB   #".toList := by decide
  simp only [byteLineChars, hgap, List.append_assoc, List.cons_append]

/-- A line tells its address and its code. -/
theorem line_inj {a b : Int} {c d : Code} (h : line a c = line b d) : a = b ∧ c = d := by
  have hchars : lineChars a c = lineChars b d := String.ofList_inj.mp h
  rw [lineChars_eq, lineChars_eq] at hchars
  obtain ⟨haddress, hrest⟩ := hexChars_append_dash hchars
  obtain ⟨hcode, -⟩ := append_separated (blank_not_mem_hexChars 4 c)
    (blank_not_mem_hexChars 4 d) hrest
  exact ⟨haddress, hexChars_injective hcode⟩

/-- A line of a byte tells its address and the byte. -/
theorem byteLine_inj {a b : Int} {x y : UInt8} (h : byteLine a x = byteLine b y) :
    a = b ∧ x = y := by
  have hchars : byteLineChars a x = byteLineChars b y := String.ofList_inj.mp h
  rw [byteLineChars_eq, byteLineChars_eq] at hchars
  obtain ⟨haddress, hrest⟩ := hexChars_append_dash hchars
  obtain ⟨hbyte, -⟩ := append_separated (blank_not_mem_hexChars 2 _)
    (blank_not_mem_hexChars 2 _) hrest
  exact ⟨haddress, UInt8.toNat_inj.mp (Int.ofNat_inj.mp (hexChars_injective hbyte))⟩

/-- A line of a word is no line of a byte: its code is longer. -/
theorem line_ne_byteLine (a b : Int) (c : Code) (x : UInt8) : line a c ≠ byteLine b x := by
  intro h
  have hchars : lineChars a c = byteLineChars b x := String.ofList_inj.mp h
  rw [lineChars_eq, byteLineChars_eq] at hchars
  obtain ⟨-, hrest⟩ := hexChars_append_dash hchars
  obtain ⟨hcode, -⟩ := append_separated (blank_not_mem_hexChars 4 c)
    (blank_not_mem_hexChars 2 _) hrest
  have hlong := le_length_hexChars 4 c
  rw [hcode, length_hexChars_byte] at hlong
  omega

/-! ## Listings -/

theorem length_ofProgram (p : List UInt8) (start : Int) :
    (ofProgram p start).length = (p.length + 1) / 2 := by
  fun_induction ofProgram p start with
  | case1 => rfl
  | case2 => simp
  | case3 high low rest start ih =>
      simp only [List.length_cons, ih]
      omega

/-- The line of a byte that is left over at the end. -/
theorem getElem?_ofProgram_last {p : List UInt8} {k : Nat} (h : p.length = 2 * k + 1)
    (start : Int) :
    (ofProgram p start)[k]? = some (byteLine (start + p.length - 1) p[2 * k]) := by
  fun_induction ofProgram p start generalizing k with
  | case1 => exact absurd h (by simp)
  | case2 byte start =>
      obtain rfl : k = 0 := by
        simp only [List.length_singleton] at h
        omega
      simp
  | case3 high low rest start ih =>
      simp only [List.length_cons] at h
      obtain ⟨k, rfl⟩ : ∃ j, k = j + 1 := ⟨k - 1, by omega⟩
      have hrest : rest.length = 2 * k + 1 := by omega
      have haddress : start + 2 + rest.length - 1 =
          start + (high :: low :: rest).length - 1 := by
        simp only [List.length_cons]
        omega
      rw [List.getElem?_cons_succ, ih hrest, haddress]
      rfl

/-- Equal listings are of one program, and start at one address if there is a line. -/
theorem ofProgram_inj {p q : List UInt8} {a b : Int} (h : ofProgram p a = ofProgram q b) :
    p = q ∧ (p ≠ [] → a = b) := by
  fun_induction ofProgram p a generalizing q b with
  | case1 a =>
      fun_cases ofProgram q b with
      | case1 => exact ⟨rfl, fun hne => absurd rfl hne⟩
      | case2 => cases h
      | case3 => cases h
  | case2 x a =>
      fun_cases ofProgram q b with
      | case1 => cases h
      | case2 y =>
          obtain ⟨haddress, hbyte⟩ := byteLine_inj (List.cons.inj h).1
          exact ⟨by rw [hbyte], fun _ => haddress⟩
      | case3 high low rest => exact absurd (List.cons.inj h).1.symm (line_ne_byteLine _ _ _ _)
  | case3 high low rest a ih =>
      fun_cases ofProgram q b with
      | case1 => cases h
      | case2 y => exact absurd (List.cons.inj h).1 (line_ne_byteLine _ _ _ _)
      | case3 high' low' rest' =>
          obtain ⟨hfirst, htail⟩ := List.cons.inj h
          obtain ⟨haddress, hcode⟩ := line_inj hfirst
          obtain ⟨rfl, rfl⟩ :=
            wordOfBytes_inj (UInt16.toNat_inj.mp (Int.ofNat_inj.mp hcode))
          obtain ⟨rfl, -⟩ := ih htail
          exact ⟨rfl, fun _ => haddress⟩

/-- **Listings lose nothing.** The line of a word tells its address and its code,
whatever integers these are, and it is never the line of a byte. A listing has a line
for each word of the program, and one more line for a byte left over at the end; equal
listings with at least one line are of the same program at the same address. -/
theorem listing_tells_program :
    (∀ (a b : Int) (c d : Code), line a c = line b d → a = b ∧ c = d) ∧
    (∀ (a b : Int) (c : Code) (x : UInt8), line a c ≠ byteLine b x) ∧
    ∀ (p : List UInt8) (start : Int),
      (ofProgram p start).length = (p.length + 1) / 2 ∧
      (∀ (k : Nat) (high low : UInt8), p[2 * k]? = some high → p[2 * k + 1]? = some low →
        (ofProgram p start)[k]? = some (line (start + 2 * k) (256 * high.toNat + low.toNat))) ∧
      (∀ (k : Nat) (last : UInt8), p.length = 2 * k + 1 → p[2 * k]? = some last →
        (ofProgram p start)[k]? = some (byteLine (start + p.length - 1) last)) ∧
      ∀ (q : List UInt8) (b : Int), p ≠ [] → ofProgram p start = ofProgram q b →
        p = q ∧ start = b := by
  refine ⟨fun _ _ _ _ => line_inj, line_ne_byteLine, fun p start => ?_⟩
  refine ⟨length_ofProgram p start, ?_, ?_, fun q b hp h => ?_⟩
  · intro k high low hhigh hlow
    obtain ⟨_, rfl⟩ := List.getElem?_eq_some_iff.mp hhigh
    obtain ⟨hlength, rfl⟩ := List.getElem?_eq_some_iff.mp hlow
    rw [getElem?_ofProgram hlength, toNat_wordOfBytes]
    rfl
  · intro k last hlength hlast
    obtain ⟨_, rfl⟩ := List.getElem?_eq_some_iff.mp hlast
    exact getElem?_ofProgram_last hlength start
  · obtain ⟨hprogram, haddress⟩ := ofProgram_inj h
    exact ⟨hprogram, haddress hp⟩

/-- Three bytes that start below zero: a word and a byte left over. Started elsewhere
they have another listing, and so does the word with a zero behind it. -/
theorem listing_tells_program_odd :
    let p : List UInt8 := [0x00, 0xE0, 0x12]
    (ofProgram p (-3)).length = 2 ∧
      (ofProgram p (-3))[0]? = some (line (-3) 0x00E0) ∧
      (ofProgram p (-3))[1]? = some (byteLine (-1) 0x12) ∧
      ofProgram p (-3) ≠ ofProgram p 0x200 ∧
      ofProgram p (-3) ≠ ofProgram [0x00, 0xE0, 0x00, 0x12] (-3) ∧
      line (-0x10) 0x12 ≠ line 0x10 (-0x12) := by
  intro p
  obtain ⟨hline, -, hlisting⟩ := listing_tells_program
  obtain ⟨hlength, hword, hlast, htells⟩ := hlisting p (-3)
  refine ⟨hlength.trans (by decide), hword 0 0x00 0xE0 rfl rfl, hlast 1 0x12 rfl rfl,
    fun h => ?_, fun h => ?_, fun h => ?_⟩
  · exact absurd (htells _ _ (by decide) h).2 (by decide)
  · exact absurd (htells _ _ (by decide) h).1 (by decide)
  · exact absurd (hline _ _ _ _ h).1 (by decide)

end Listing

end Chip8
