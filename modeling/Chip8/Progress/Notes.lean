import Chip8.Progress.Spec

/-!
# Notes beside a bar

A host may have notes written beside its bar: a table of names with numbers and
texts. Those that stand under the name `ordered_dict` come first, in their
order, the others after them in the order of their names. A table that cannot be
read so, and any other value, is written as it is.
-/

namespace Chip8.Progress

/-- A number with three digits, or in full if that is no longer. -/
def briefly (v : Value) : String :=
  let three : Spec := { places := some 3, code := some 'g' }
  let short := ((v.written (some three)).replace "e+0" "e+").replace "e-0" "e-"
  if short.length < v.plain.length then short else v.plain

/-- The text of a note. -/
def noteText (v : Value) : Except BarError String := do
  let text ←
    match Quantity.ofValue? v with
    | some q => if q.fits then pure (briefly v) else throw .number
    | none => pure v.plain
  return String.ofList (Text.trimmed Text.isBlank text.toList)

/-- The parts of a value, if it has any: the characters of a text, the items of
a list, the names in a table. -/
def parts? : Value → Option (List Value)
  | .text s => some (s.toList.map fun c => .text (String.singleton c))
  | .list items => some items
  | .table members => some (members.map fun m => .text m.1)
  | _ => none

/-- The name and the value that make a note; no error means that the notes are
written as they are. -/
def pair (v : Value) : Except (Option BarError) (Value × Value) :=
  match parts? v with
  | none => .error none
  | some [.list _, _] | some [.table _, _] => .error none
  | some [key, value] => .ok (key, value)
  | some (_ :: _ :: _) => .error (some (.note none))
  | some parts => .error (some (.note (some parts.length)))

/-- Notes with one more, in the place of one of the same name. -/
def put (notes : List (Value × Value)) (key value : Value) : List (Value × Value) :=
  if notes.any fun note => note.1.literal = key.literal then
    notes.map fun note => if note.1.literal = key.literal then (note.1, value) else note
  else notes ++ [(key, value)]

/-- The names of a table that are not names of notes. -/
def noNotes : List String := ["refresh", "self"]

/-- The notes in a table. -/
def notes (members : List (String × Value)) : Except (Option BarError) (List (Value × Value)) := do
  if members.any fun m => noNotes.contains m.1 then throw none
  let first ←
    match Value.member? members "ordered_dict" with
    | none => pure []
    | some (.table members) => pure (members.map fun m => (.text m.1, m.2))
    | some v =>
      match parts? v with
      | none => throw none
      | some parts => parts.mapM pair
  let others := (members.filter (·.1 ≠ "ordered_dict")).mergeSort fun a b => a.1 ≤ b.1
  let all := first ++ others.map fun m => (Value.text m.1, m.2)
  return all.foldl (fun notes note => put notes note.1 note.2) []

/-- What is written beside a bar. -/
def noteField (v : Value) : Except BarError Value := do
  let raw : Value :=
    match v with
    | .text s => if s.isEmpty then v else .text (", " ++ s)
    | v => if v.isTrue then v else .text ""
  match v with
  | .table (m :: members) =>
    match notes (m :: members) with
    | .error none => return raw
    | .error (some e) => throw e
    | .ok notes => do
      let texts ← notes.mapM fun note => noteText note.2
      if notes.any fun note => note.1.kind ≠ "str" then return raw
      let named := (notes.zip texts).map fun (note, text) => note.1.plain ++ "=" ++ text
      return .text (if named.isEmpty then "" else ", " ++ ", ".intercalate named)
  | _ => return raw

end Chip8.Progress
