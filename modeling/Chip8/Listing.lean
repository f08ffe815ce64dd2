import Chip8.Instruction

/-!
# Assembly text

Every operation has a format: a row of fixed pieces of text and operands, from
which the mnemonic of an instruction is put together. A listing shows one word
of memory per line: its address, the word, and its mnemonic, or the word as
data (`DW`) if no operation has it. A byte left over at the end of a program is
shown as a line of its own (`DB`).
-/

namespace Chip8

open Text

/-- The operands that a mnemonic can show. -/
inductive Field where
  | x | y | n | nn | nnn
deriving DecidableEq, Repr

/-- A piece of a mnemonic. -/
inductive Piece where
  /-- The text itself. -/
  | text (s : String)
  /-- An operand in hexadecimal, at least `width` digits. -/
  | hex (width : Nat) (field : Field)
  /-- An operand in decimal. -/
  | decimal (field : Field)
deriving DecidableEq, Repr

/-- What a piece shows when the operands have the given values. -/
def Piece.chars (value : Field → Int) : Piece → List Char
  | text s => s.toList
  | hex width field => hexChars width (value field)
  | decimal field => decimalChars (value field)

namespace Op

/-- The pieces of the mnemonic. The word is filled up to five columns, also
where no operand follows. -/
def format : Op → List Piece
  | cls => [.text "CLS  "]
  | ret => [.text "RET  "]
  | jp => [.text "GOTO ", .hex 3 .nnn]
  | call => [.text "CALL ", .hex 3 .nnn]
  | seByte => [.text "SE   V", .hex 1 .x, .text ",#", .hex 2 .nn]
  | sneByte => [.text "SNE  V", .hex 1 .x, .text ",#", .hex 2 .nn]
  | seReg => [.text "SE   V", .hex 1 .x, .text ",V", .hex 1 .y]
  | ldByte => [.text "LD   V", .hex 1 .x, .text ",#", .hex 2 .nn]
  | addByte => [.text "ADD  V", .hex 1 .x, .text ",#", .hex 2 .nn]
  | ldReg => [.text "LD   V", .hex 1 .x, .text ",V", .hex 1 .y]
  | or => [.text "OR   V", .hex 1 .x, .text ",V", .hex 1 .y]
  | and => [.text "AND  V", .hex 1 .x, .text ",V", .hex 1 .y]
  | xor => [.text "XOR  V", .hex 1 .x, .text ",V", .hex 1 .y]
  | addReg => [.text "ADD  V", .hex 1 .x, .text ",V", .hex 1 .y]
  | sub => [.text "SUB  V", .hex 1 .x, .text ",V", .hex 1 .y]
  | shr => [.text "SHR  V", .hex 1 .x]
  | subn => [.text "SUBN V", .hex 1 .x, .text ",V", .hex 1 .y]
  | shl => [.text "SHL  V", .hex 1 .x]
  | sneReg => [.text "SNE  V", .hex 1 .x, .text ",V", .hex 1 .y]
  | ldI => [.text "LD   I,#", .hex 4 .nnn]
  | jpV0 => [.text "JP   V0,#", .hex 4 .nnn]
  | rnd => [.text "RND  V", .hex 1 .x, .text ",#", .hex 2 .nn]
  | drw => [.text "DRW  V", .hex 1 .x, .text ",V", .hex 1 .y, .text ",", .decimal .n]
  | skp => [.text "SKP  V", .hex 1 .x]
  | sknp => [.text "SKNP V", .hex 1 .x]
  | getDelay => [.text "LD   V", .hex 1 .x, .text ",DT"]
  | waitKey => [.text "LD   V", .hex 1 .x, .text ",K"]
  | setDelay => [.text "LD   DT,V", .hex 1 .x]
  | setSound => [.text "LD   ST,V", .hex 1 .x]
  | addI => [.text "ADD  I,V", .hex 1 .x]
  | font => [.text "LD   F,V", .hex 1 .x]
  | bcd => [.text "LD   B,V", .hex 1 .x]
  | storeRegs => [.text "LD   [I],V", .hex 1 .x]
  | loadRegs => [.text "LD   V", .hex 1 .x, .text ",[I]"]

/-- The characters of a mnemonic whose operands have the given values; values
of any size are shown as they are. -/
def mnemonicChars (op : Op) (value : Field → Int) : List Char :=
  op.format.flatMap (Piece.chars value)

/-- `mnemonicChars` as a string. -/
def mnemonic (op : Op) (value : Field → Int) : String :=
  String.ofList (op.mnemonicChars value)

end Op

namespace Instruction

/-- The value of an operand. -/
def field (i : Instruction) : Field → Int
  | .x => i.x.val
  | .y => i.y.val
  | .n => i.n.val
  | .nn => i.nn.toNat
  | .nnn => i.nnn.toNat

/-- The assembly text of an instruction. -/
def mnemonic (i : Instruction) : String :=
  i.op.mnemonic i.field

end Instruction

namespace Listing

/-- The assembly text of a code: a mnemonic, or the code as data. -/
def textChars (c : Code) : List Char :=
  match Op.ofCode? c with
  | some op => op.mnemonicChars (Instruction.field ⟨op, c⟩)
  | none => "DW   #".toList ++ hexChars 4 c

/-- The characters of the line that shows a code at an address. -/
def lineChars (address : Int) (c : Code) : List Char :=
  hexChars 3 address ++ '-' :: hexChars 4 c ++ ' ' :: textChars c

/-- The line that shows a code at an address. -/
def line (address : Int) (c : Code) : String :=
  String.ofList (lineChars address c)

/-- The characters of the line that shows a single byte at an address. -/
def byteLineChars (address : Int) (byte : UInt8) : List Char :=
  hexChars 3 address ++ '-' :: hexChars 2 byte.toNat ++ "   DB   #".toList ++
    hexChars 2 byte.toNat

/-- The line that shows a single byte at an address. -/
def byteLine (address : Int) (byte : UInt8) : String :=
  String.ofList (byteLineChars address byte)

/-- The listing of a program whose first byte is at the given address, two
bytes to a line. -/
def ofProgram : List UInt8 → Int → List String
  | [], _ => []
  | [byte], address => [byteLine address byte]
  | high :: low :: rest, address =>
    line address (wordOfBytes high low).toNat :: ofProgram rest (address + 2)

example : line 0x200 0xD125 = "200-D125 DRW  V1,V2,5" := by decide +kernel
example : line 0x200 0x100EE = "200-100EE DW   #100EE" := by decide +kernel
example : ofProgram [0x00, 0xE0, 0xFF] 0x200 = ["200-00E0 CLS  ", "202-FF   DB   #FF"] := by
  decide +kernel

end Listing

end Chip8
