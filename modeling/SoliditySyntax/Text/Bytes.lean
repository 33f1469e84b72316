/-!
# Byte ranges and slices of text

Offsets into a source count the bytes of its UTF-8 form.  This file supplies
byte ranges, the byte length of a list of characters, and the slice of a
source that a range covers.

A range covers a slice exactly when it is not reversed, does not reach past
the end of the source, and cuts no character: both of its ends must lie
between two characters, or at an end of the source.  The law of
`splitAtByte?` says so for one cut.
-/

namespace SoliditySyntax.Text

/-- A range of byte offsets: `start` is its first offset, `stop` the first one after it. -/
structure ByteRange where
  start : Nat
  stop : Nat
deriving DecidableEq

/-- The ends of a range, with two dots between them. -/
def ByteRange.inspect (range : ByteRange) : String :=
  toString range.start ++ ".." ++ toString range.stop

/-- The number of bytes that the UTF-8 form of a list of characters takes. -/
def byteLength : List Char → Nat
  | [] => 0
  | character :: rest => character.utf8Size + byteLength rest

@[simp]
theorem byteLength_nil : byteLength [] = 0 :=
  rfl

@[simp]
theorem byteLength_cons (character : Char) (rest : List Char) :
    byteLength (character :: rest) = character.utf8Size + byteLength rest :=
  rfl

@[simp]
theorem byteLength_append (before after : List Char) :
    byteLength (before ++ after) = byteLength before + byteLength after := by
  induction before with
  | nil => simp
  | cons character rest ih => simp [ih, Nat.add_assoc]

/--
Cut a list of characters after its first `offset` bytes.  There is no cut
inside a character, and none past the end.
-/
def splitAtByte? : List Char → Nat → Option (List Char × List Char)
  | characters, 0 => some ([], characters)
  | [], _ + 1 => none
  | character :: rest, offset + 1 =>
      if character.utf8Size ≤ offset + 1 then
        (splitAtByte? rest (offset + 1 - character.utf8Size)).map
          fun (before, after) => (character :: before, after)
      else
        none

@[simp]
theorem splitAtByte?_zero (characters : List Char) :
    splitAtByte? characters 0 = some ([], characters) := by
  cases characters <;> rfl

/-- A cut at an offset splits the characters so that the first part has that many bytes. -/
theorem splitAtByte?_eq_some_iff (characters before after : List Char) (offset : Nat) :
    splitAtByte? characters offset = some (before, after) ↔
      characters = before ++ after ∧ byteLength before = offset := by
  induction characters generalizing before offset with
  | nil =>
    cases offset with
    | zero => cases before <;> simp [Char.utf8Size_pos, Nat.ne_of_gt, eq_comm]
    | succ offset => cases before <;> simp [splitAtByte?]
  | cons character rest ih =>
    cases offset with
    | zero =>
      cases before with
      | nil => simp [eq_comm]
      | cons first others =>
        have positive := Char.utf8Size_pos first
        simp only [splitAtByte?_zero, byteLength_cons]
        constructor
        · simp
        · rintro ⟨-, length⟩
          omega
    | succ offset =>
      have positive := Char.utf8Size_pos character
      simp only [splitAtByte?]
      split
      next fits =>
        cases before with
        | nil => simp
        | cons first others =>
          simp only [Option.map_eq_some_iff, Prod.exists, Prod.mk.injEq, List.cons.injEq,
            List.cons_append, byteLength_cons]
          constructor
          · rintro ⟨_, _, cut, ⟨rfl, rfl⟩, rfl⟩
            obtain ⟨rfl, length⟩ := (ih _ _).mp cut
            exact ⟨⟨rfl, rfl⟩, by omega⟩
          · rintro ⟨⟨rfl, rfl⟩, length⟩
            exact ⟨others, after, (ih _ _).mpr ⟨rfl, by omega⟩, ⟨rfl, rfl⟩, rfl⟩
      next tooWide =>
        cases before with
        | nil => simp
        | cons first others =>
          simp only [reduceCtorEq, List.cons_append, List.cons.injEq, byteLength_cons, false_iff]
          rintro ⟨⟨rfl, -⟩, length⟩
          omega

/-- The failure to cut a source at a range that covers no slice of it. -/
structure BadRange where
  range : ByteRange
deriving DecidableEq

/--
The part of `source` that a range covers: what is left of the text up to the
range's `stop` when its first `start` bytes are gone.
-/
def slice (source : String) (range : ByteRange) : Except BadRange String :=
  match splitAtByte? source.toList range.stop with
  | none => .error ⟨range⟩
  | some (covered, _) =>
      match splitAtByte? covered range.start with
      | none => .error ⟨range⟩
      | some (_, inside) => .ok (String.ofList inside)

end SoliditySyntax.Text
