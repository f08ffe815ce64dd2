import Chip8.Text.CaseTable

/-!
# Capital letters

`upper` puts a text into capital letters, character by character. ASCII goes
its short way; all other letters are looked up in the table.
-/

namespace Chip8.Text

/-- Whether a run holds a code point. -/
def CaseRun.holds (run : CaseRun) (code : Nat) : Bool :=
  run.first ≤ code && code ≤ run.last && (code - run.first) % run.stride == 0

/-- The capital form of a character; a character without one stays. -/
def upperChar (c : Char) : List Char :=
  if c.toNat < 0x80 then [c.toUpper]
  else
    match caseExpansions.lookup c.toNat with
    | some codes => codes.map Char.ofNat
    | none =>
      match caseRuns.find? (·.holds c.toNat) with
      | some run => [Char.ofNat (c.toNat + run.shift).toNat]
      | none => [c]

/-- A text in capital letters. -/
def upper (s : String) : String :=
  String.ofList (s.toList.flatMap upperChar)

theorem upperChar_ascii {c : Char} (h : c.toNat < 0x80) : upperChar c = [c.toUpper] := by
  simp [upperChar, h]

theorem flatMap_upperChar_ascii {cs : List Char} (h : ∀ c ∈ cs, c.toNat < 0x80) :
    cs.flatMap upperChar = cs.map Char.toUpper := by
  induction cs with
  | nil => rfl
  | cons c cs ih =>
      rw [List.flatMap_cons, upperChar_ascii (h c List.mem_cons_self),
        ih fun d hd => h d (List.mem_cons_of_mem c hd)]
      rfl

/-- An ASCII text is put into capital letters as everywhere. -/
theorem upper_ascii {s : String} (h : ∀ c ∈ s.toList, c.toNat < 0x80) : upper s = s.toUpper := by
  rw [upper, flatMap_upperChar_ascii h, String.toUpper, ← String.toList_map, String.ofList_toList]

example : upper "Straße, été, ǆ" = "STRASSE, ÉTÉ, Ǆ" := by decide +kernel

end Chip8.Text
