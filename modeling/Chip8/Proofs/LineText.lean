import Chip8.Listing
import Chip8.Proofs.Numerals

/-!
# Telling data from instructions in a listing

A line shows its address and its code, and behind the first blank a mnemonic
or, for a code of no operation, the word `DW`. The addresses and codes in front
have no blanks and no mnemonic begins with `DW`, so the text of a line alone
tells whether its code is an instruction (`Listing.isDataLine_line`).
-/

namespace Chip8

namespace Text

/-- Text in hexadecimal has no blank. -/
theorem blank_not_mem_hexChars (width : Nat) (v : Int) : ' ' ∉ hexChars width v := by
  have hpadded : ∀ k, ' ' ∉ (hexDigits v.natAbs).leftpad k '0' :=
    fun k => not_mem_leftpad_hexDigits (by decide) k _
  intro h
  unfold hexChars at h
  split at h
  · rcases List.mem_cons.mp h with hsign | hrest
    · exact absurd hsign (by decide)
    · exact hpadded _ hrest
  · exact hpadded _ h

end Text

/-- No mnemonic begins as a line of data does. -/
theorem Op.not_dw_prefix_mnemonicChars (op : Op) (value : Field → Int) :
    ['D', 'W'].isPrefixOf (op.mnemonicChars value) = false := by
  cases op <;> rfl

namespace Listing

/-- Whether a line shows its code as data: the word behind its first blank
begins with `DW`. -/
def isDataLine (l : String) : Bool :=
  ['D', 'W'].isPrefixOf ((l.toList.dropWhile (· != ' ')).drop 1)

/-- A line shows its code as data if no operation has it. -/
theorem isDataLine_line (address : Int) (c : Code) :
    isDataLine (line address c) = (Op.ofCode? c).isNone := by
  have hfront : ∀ a ∈ Text.hexChars 3 address ++ '-' :: Text.hexChars 4 c, (a != ' ') = true := by
    intro a ha
    refine bne_iff_ne.mpr ?_
    rintro rfl
    rcases List.mem_append.mp ha with haddress | hcode
    · exact Text.blank_not_mem_hexChars 3 address haddress
    · rcases List.mem_cons.mp hcode with hdash | hcode
      · exact absurd hdash (by decide)
      · exact Text.blank_not_mem_hexChars 4 c hcode
  have htext : (line address c).toList.dropWhile (· != ' ') = ' ' :: textChars c := by
    rw [line, String.toList_ofList, lineChars, List.dropWhile_append_of_pos hfront]
    rfl
  rw [isDataLine, htext, List.drop_one, List.tail_cons, textChars]
  cases Op.ofCode? c with
  | none => rfl
  | some op => exact op.not_dw_prefix_mnemonicChars _

example : isDataLine (line 0x200 0xFFFF) = true := by decide +kernel

end Listing

end Chip8
