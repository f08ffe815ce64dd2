import Chip8.Progress.Spec

/-!
# Patterns

A pattern is a text with fields in braces; a brace is written twice to stand for
itself. A field names a value, goes on to one of its parts or items, may be
turned into a text (`!r`), and may end in a specifier (`:>5`), which may itself
hold fields. What is wrong with a pattern is found out from the left to the
right, so a field may be refused before a brace further on is missed: a pattern
is a list of pieces, the last of which may be broken (`pieces`), and filling it
in stops at the first error (`fill`).
-/

namespace Chip8.Progress.Pattern

/-- A field: its name with the parts that follow, how it is turned into a text,
if it is, and its specifier. -/
structure Field where
  name : List Char
  conversion : Option Char
  spec : List Char
deriving DecidableEq, Repr

/-- A piece of a pattern. -/
inductive Piece where
  | char (c : Char)
  | field (f : Field)
  /-- The rest cannot be read. -/
  | broken (e : PatternError)
deriving DecidableEq, Repr

/-- The name of a field, up to its end or a mark outside of brackets, and what
follows it. -/
def splitName (inBrackets : Bool) : List Char → Except PatternError (List Char × List Char)
  | [] => .ok ([], [])
  | c :: rest =>
    if !inBrackets && c = '\x7b' then .error .nested
    else if !inBrackets && "\x7d:!".toList.contains c then .ok ([], c :: rest)
    else do
      let (name, rest) ← splitName (if inBrackets then c ≠ ']' else c = '[') rest
      return (c :: name, rest)

/-- A specifier within so many braces, up to the one that closes the field, and
what follows that. -/
def splitSpec : Nat → List Char → Except PatternError (List Char × List Char)
  | _, [] => .error .unclosedSpec
  | 0, '\x7d' :: rest => .ok ([], rest)
  | depth, c :: rest => do
    let depth := if c = '\x7b' then depth + 1 else if c = '\x7d' then depth - 1 else depth
    let (spec, rest) ← splitSpec depth rest
    return (c :: spec, rest)

/-- The field behind an opening brace, and what follows it. -/
def field (cs : List Char) : Except PatternError (Field × List Char) := do
  let withSpec (name : List Char) (conversion : Option Char) (rest : List Char) :
      Except PatternError (Field × List Char) := do
    let (spec, rest) ← splitSpec 0 rest
    return (⟨name, conversion, spec⟩, rest)
  let (name, rest) ← splitName false cs
  match rest with
  | '\x7d' :: rest => return (⟨name, none, []⟩, rest)
  | ':' :: rest => withSpec name none rest
  | ['!'] => throw .noConversion
  | ['!', _] => throw .unclosedSpec
  | '!' :: c :: '\x7d' :: rest => return (⟨name, some c, []⟩, rest)
  | '!' :: c :: ':' :: rest => withSpec name (some c) rest
  | '!' :: _ => throw .afterConversion
  | _ => throw .unclosed

/-- The pieces of a pattern of at most so many characters. -/
def piecesWithin : Nat → List Char → List Piece
  | 0, _ | _, [] => []
  | n + 1, '\x7b' :: '\x7b' :: rest => .char '\x7b' :: piecesWithin n rest
  | n + 1, '\x7d' :: '\x7d' :: rest => .char '\x7d' :: piecesWithin n rest
  | _, ['\x7b'] => [.broken .opening]
  | _, '\x7d' :: _ => [.broken .closing]
  | n + 1, '\x7b' :: rest =>
    match field rest with
    | .ok (f, rest) => .field f :: piecesWithin n rest
    | .error e => [.broken e]
  | n + 1, c :: rest => .char c :: piecesWithin n rest

/-- The pieces of a pattern. -/
def pieces (cs : List Char) : List Piece := piecesWithin cs.length cs

/-- The place that a name is, if it is made of digits. -/
def place? (name : List Char) : Except PatternError (Option Nat) :=
  match Spec.number 0 name with
  | .error e => .error (.spec e)
  | .ok (n, rest) => .ok (if !name.isEmpty && rest.isEmpty then some n else none)

/-- A part of a value. -/
def part (v : Value) (name : String) : Except PatternError Value :=
  match name, v with
  | "__class__", v => .ok (.text ("<class '" ++ v.kind ++ "'>"))
  | "real", .flag b | "numerator", .flag b => .ok (.whole (if b then 1 else 0))
  | "real", .whole n | "numerator", .whole n => .ok (.whole n)
  | "imag", .flag _ | "imag", .whole _ => .ok (.whole 0)
  | "denominator", .flag _ | "denominator", .whole _ => .ok (.whole 1)
  | "real", .real x => .ok (.real x)
  | "imag", .real _ => .ok (.real 0)
  | name, v => .error (.part v.kind name)

/-- An item of a value, by its place or its name. -/
def item (v : Value) (place? : Option Nat) (name : String) : Except PatternError Value :=
  match v, place? with
  | .text s, some i => (s.toList[i]?.map fun c => Value.text (String.singleton c)).elim
      (.error (.pastEnd true)) .ok
  | .text _, none => .error (.itemName true)
  | .list items, some i => items[i]?.elim (.error (.pastEnd false)) .ok
  | .list _, none => .error (.itemName false)
  | .table _, some i => .error (.noMember (Text.decimal i))
  | .table members, none =>
    (members.lookup name).elim (.error (.noMember (Text.quoted name))) .ok
  | v, _ => .error (.noItems v.kind)

/-- The value that a name of at most so many characters leads to from a value.
-/
def follow (v : Value) : Nat → List Char → Except PatternError Value
  | 0, _ | _, [] => .ok v
  | n + 1, '.' :: rest => do
    let name := rest.takeWhile fun c => c ≠ '.' && c ≠ '['
    if name.isEmpty then throw .unnamed
    follow (← part v (String.ofList name)) n (rest.drop name.length)
  | n + 1, '[' :: rest => do
    let name := rest.takeWhile (· ≠ ']')
    let place ← place? name
    if name.isEmpty then throw .unnamed
    follow (← item v place (String.ofList name)) n (rest.drop (name.length + 1))
  | _, _ => .error .afterBracket

/-- The value that a field stands for. -/
def Field.value (f : Field) (fields : List (String × Value)) : Except PatternError Value := do
  let first := f.name.takeWhile fun c => c ≠ '.' && c ≠ '['
  let place ← place? first
  if first.isEmpty then throw (.place 0)
  if let some n := place then throw (.place n)
  let name := String.ofList first
  match fields.lookup name with
  | none => throw (.field name)
  | some v =>
    let v ← follow v f.name.length (f.name.drop first.length)
    match f.conversion with
    | none => return v
    | some 's' => return .text v.plain
    | some 'r' => return .text v.literal
    | some 'a' => return .text (v.literalBy Text.quotedAscii)
    | some c => throw (.conversion c)

/-- A piece that is filled in: a character, a value with its specifier, or what
the bar makes of its own. -/
inductive Filled (β : Type) where
  | char (c : Char)
  | value (v : Value) (spec : Option Spec)
  | gauge (b : β)

/-- The text of pieces that are filled in. -/
def text {β : Type} (bar : β → String) (filled : List (Filled β)) : String :=
  String.join (filled.map fun
    | .char c => String.singleton c
    | .value v spec => v.written spec
    | .gauge b => bar b)

/-- Fills a pattern in, with the bar itself by its own specifier; specifiers
hold fields to so many levels. -/
def fill {β : Type} (fields : List (String × Value))
    (gauge : List Char → Except BarError β) (bar : β → String) :
    Nat → List Char → Except BarError (List (Filled β))
  | 0, _ => .error (.pattern .depth)
  | depth + 1, cs => (pieces cs).mapM fun
    | .char c => return .char c
    | .broken e => throw (.pattern e)
    | .field f => do
      let v ← (f.value fields).mapError .pattern
      let spec ←
        if f.spec.contains '\x7b' then do
          pure (text bar (← fill fields gauge bar depth f.spec)).toList
        else pure f.spec
      match v with
      | .gauge => return .gauge (← gauge spec)
      | v => return .value v (← (v.specify spec).mapError fun e => .pattern (.spec e))

example : pieces "a\x7bn:>5\x7d\x7d\x7d\x7b".toList =
    [.char 'a', .field ⟨['n'], none, ['>', '5']⟩, .char '\x7d', .broken .opening] := by
  decide +kernel
example : pieces "\x7bn!r\x7d".toList = [.field ⟨['n'], some 'r', []⟩] := by decide +kernel
example : pieces "\x7bn".toList = [.broken .unclosed] := by decide +kernel

end Chip8.Progress.Pattern
