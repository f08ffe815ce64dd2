import Chip8.Listing
import Chip8.Proofs.Numerals

/-!
# Reading a mnemonic back

A mnemonic is unambiguous: from its text one can tell the operation and the
operands that it shows (`Instruction.mnemonic_eq_iff`). Two facts about the
table of formats carry this. The operands of one format can be told apart,
since each has a fixed number of digits, but for the last (`Piece.legible`). And
any two formats differ in a character that no operand touches: their outlines,
where a digit of any value is left open, clash at some place
(`Op.clash_outline`).
-/

namespace Chip8

open Text

/-! ## Operands and their values -/

/-- The largest value of an operand. -/
def Field.largest : Field → Nat
  | x | y | n => 15
  | nn => 255
  | nnn => 4095

/-- Values that operands can have. -/
def Ranged (value : Field → Int) : Prop :=
  ∀ f : Field, 0 ≤ value f ∧ value f ≤ f.largest

theorem Instruction.ranged_field (i : Instruction) : Ranged i.field := by
  intro f
  have hnn : (i.nn.toNat : Int) = i.code % 256 := i.code.toNat_nn
  have hnnn : (i.nnn.toNat : Int) = i.code % 4096 := i.code.toNat_nnn
  cases f <;> simp only [field, Field.largest] <;> omega

namespace Piece

/-- The operand that a piece shows. -/
def field? : Piece → Option Field
  | text _ => none
  | hex _ f => some f
  | decimal f => some f

variable {value value' : Field → Int}

/-- What a row of pieces shows depends on the operands in it only. -/
theorem flatMap_chars_congr {ps : List Piece}
    (h : ∀ f ∈ ps.filterMap field?, value f = value' f) :
    ps.flatMap (chars value) = ps.flatMap (chars value') := by
  induction ps with
  | nil => rfl
  | cons p ps ih =>
      have hrest := ih fun f hf => h f (by
        rw [List.filterMap_cons]
        split
        · exact hf
        · exact List.mem_cons_of_mem _ hf)
      rw [List.flatMap_cons, List.flatMap_cons, hrest]
      cases p with
      | text s => rfl
      | hex width f | decimal f =>
          have hf : value f = value' f := h f List.mem_cons_self
          simp only [chars, hf]

/-! ## Operands in one format -/

/-- Whether the operands in a row of pieces can be read off its text: a
hexadecimal one is as wide as its largest value, and a decimal one, whose width
varies, ends the row. -/
def legible : List Piece → Bool
  | [] => true
  | text _ :: rest => legible rest
  | hex width f :: rest => (hexDigits f.largest).length ≤ width && legible rest
  | decimal _ :: rest => rest.isEmpty

theorem legible_hex {width : Nat} {f : Field} {rest : List Piece}
    (h : legible (hex width f :: rest)) (hv : Ranged value) :
    (hexChars width (value f)).length = width ∧ legible rest := by
  simp only [legible, Bool.and_eq_true, decide_eq_true_eq] at h
  obtain ⟨hwidth, hrest⟩ := h
  obtain ⟨h0, hle⟩ := hv f
  have hdigits : (hexDigits (value f).natAbs).length ≤ (hexDigits f.largest).length :=
    length_hexDigits_mono (by omega)
  exact ⟨length_hexChars h0 (Nat.le_trans hdigits hwidth), hrest⟩

/-- Equal texts of one legible row show equal operands. -/
theorem eq_of_flatMap_chars_eq {ps : List Piece} (hps : legible ps) (hv : Ranged value)
    (hv' : Ranged value') (h : ps.flatMap (chars value) = ps.flatMap (chars value')) :
    ∀ f ∈ ps.filterMap field?, value f = value' f := by
  -- peel the row piece by piece; both texts of a piece are of one length
  induction ps with
  | nil =>
      intro f hf
      cases hf
  | cons p ps ih =>
      rw [List.flatMap_cons, List.flatMap_cons] at h
      cases p with
      | text s => exact ih hps (List.append_cancel_left h)
      | hex width f =>
          obtain ⟨hlength, hrest⟩ := legible_hex hps hv
          obtain ⟨hlength', -⟩ := legible_hex hps hv'
          obtain ⟨hfirst, htail⟩ := List.append_inj h (hlength.trans hlength'.symm)
          intro g hg
          rcases List.mem_cons.mp hg with rfl | hg
          · exact hexChars_injective hfirst
          · exact ih hrest htail g hg
      | decimal f =>
          obtain rfl : ps = [] := List.isEmpty_iff.mp hps
          intro g hg
          obtain rfl : g = f := List.mem_singleton.mp hg
          apply decimalChars_injective
          simpa [chars] using h

/-! ## Telling formats apart -/

/-- What is known of a text from its pieces alone, up to a decimal operand;
`none` stands for a digit. -/
def outline : List Piece → List (Option Char)
  | [] => []
  | text s :: rest => s.toList.map some ++ outline rest
  | hex width _ :: rest => List.replicate width none ++ outline rest
  | decimal _ :: _ => []

/-- Whether two outlines have different characters at some place. -/
def clash (ps qs : List (Option Char)) : Bool :=
  (ps.zip qs).any fun
    | (some a, some b) => a != b
    | _ => false

/-- Whether a text has the characters of an outline. -/
def Follows (text : List Char) (ps : List (Option Char)) : Prop :=
  ∀ (k : Nat) (a : Char), ps[k]? = some (some a) → text[k]? = some a

theorem Follows.append {t u : List Char} {ps qs : List (Option Char)} (ht : Follows t ps)
    (hu : Follows u qs) (hlength : t.length = ps.length) : Follows (t ++ u) (ps ++ qs) := by
  intro k a h
  rw [List.getElem?_append] at h ⊢
  rw [hlength]
  split at h
  · rename_i hk
    rw [if_pos hk]
    exact ht k a h
  · rename_i hk
    rw [if_neg hk]
    exact hu _ a h

theorem follows_outline {ps : List Piece} (hps : legible ps) (hv : Ranged value) :
    Follows (ps.flatMap (chars value)) (outline ps) := by
  -- a piece is as long in the text as in the outline, so the pieces behind it
  -- stand at the same places in both
  induction ps with
  | nil =>
      intro k a h
      cases h
  | cons p ps ih =>
      rw [List.flatMap_cons]
      cases p with
      | text s =>
          refine Follows.append ?_ (ih hps) (List.length_map some).symm
          intro k a h
          simpa [chars] using h
      | hex width f =>
          obtain ⟨hlength, hrest⟩ := legible_hex hps hv
          refine Follows.append ?_ (ih hrest) (hlength.trans List.length_replicate.symm)
          intro k a h
          simp [List.getElem?_replicate] at h
      | decimal f =>
          intro k a h
          cases h

theorem flatMap_chars_ne_of_clash {ps qs : List Piece} (hps : legible ps) (hqs : legible qs)
    (hv : Ranged value) (hv' : Ranged value') (h : clash (outline ps) (outline qs)) :
    ps.flatMap (chars value) ≠ qs.flatMap (chars value') := by
  intro heq
  obtain ⟨⟨p, q⟩, hmem, hdiffer⟩ := List.any_eq_true.mp h
  obtain ⟨k, hk⟩ := List.mem_iff_getElem?.mp hmem
  obtain ⟨hp, hq⟩ := List.getElem?_zip_eq_some.mp hk
  cases p with
  | none => cases hdiffer
  | some a =>
      cases q with
      | none => cases hdiffer
      | some b =>
          have ha := follows_outline hps hv k a hp
          have hb := follows_outline hqs hv' k b hq
          rw [heq, hb] at ha
          exact absurd (Option.some.inj ha).symm (bne_iff_ne.mp hdiffer)

end Piece

/-! ## The table of formats -/

namespace Op

/-- The operands that the mnemonic of an operation shows. -/
def fields (op : Op) : List Field := op.format.filterMap Piece.field?

theorem legible_format (op : Op) : Piece.legible op.format := by
  cases op <;> decide

/-- Formats of different operations clash. -/
theorem clash_outline {op op' : Op} (h : op ≠ op') :
    Piece.clash (Piece.outline op.format) (Piece.outline op'.format) := by
  have htable : ∀ op ∈ all, ∀ op' ∈ all, op ≠ op' →
      Piece.clash (Piece.outline op.format) (Piece.outline op'.format) := by
    decide +kernel
  exact htable op op.mem_all op' op'.mem_all h

end Op

/-- A mnemonic tells the operation and the operands that it shows, and nothing
else. -/
theorem Instruction.mnemonic_eq_iff {i j : Instruction} :
    i.mnemonic = j.mnemonic ↔ i.op = j.op ∧ ∀ f ∈ i.op.fields, i.field f = j.field f := by
  have htext : i.mnemonic = j.mnemonic ↔
      i.op.format.flatMap (Piece.chars i.field) = j.op.format.flatMap (Piece.chars j.field) :=
    String.ofList_inj
  rw [htext]
  constructor
  · intro h
    have hop : i.op = j.op := by
      apply Decidable.byContradiction
      intro hne
      exact Piece.flatMap_chars_ne_of_clash i.op.legible_format j.op.legible_format
        i.ranged_field j.ranged_field (Op.clash_outline hne) h
    rw [← hop] at h
    exact ⟨hop, Piece.eq_of_flatMap_chars_eq i.op.legible_format i.ranged_field j.ranged_field h⟩
  · rintro ⟨hop, hfields⟩
    rw [← hop]
    exact Piece.flatMap_chars_congr hfields

end Chip8
