import SoliditySyntax.Tree.Basic
import Mathlib.Order.Defs.PartialOrder

/-!
# Offsets and places of a source

An offset into a source counts bytes of its UTF-8 form, and a place gives the
row and the column that the bytes before an offset lead to.  This module
supplies the bytes of a source, the place at an offset and the order of
places, in which the row decides before the column.

The main theorem says that a later offset never lies at an earlier place.  It
holds for offsets inside a character and behind the end as well.
-/

namespace SoliditySyntax

namespace Text

/-- The bytes of the UTF-8 form of a source. -/
def bytes (source : String) : List UInt8 :=
  source.toList.flatMap String.utf8EncodeChar

theorem toByteArray_eq_bytes (source : String) :
    source.toByteArray = (bytes source).toByteArray := by
  rw [bytes, ← List.utf8Encode, ← String.toByteArray_ofList, String.ofList_toList]

@[simp]
theorem length_bytes (source : String) :
    (bytes source).length = source.utf8ByteSize := by
  rw [← String.size_toByteArray, toByteArray_eq_bytes, List.size_toByteArray]

/-- The byte that ends a row. -/
def rowEnd : UInt8 :=
  10

end Text

open SoliditySyntax.Text

namespace Point

/-- Places are compared by their rows, and within a row by their columns. -/
instance : Preorder Point where
  le earlier later :=
    earlier.row < later.row ∨ earlier.row = later.row ∧ earlier.column ≤ later.column
  le_refl point := Or.inr ⟨rfl, Nat.le_refl point.column⟩
  le_trans first second third firstLe secondLe := by
    omega

instance (earlier later : Point) : Decidable (earlier ≤ later) :=
  inferInstanceAs
    (Decidable
      (earlier.row < later.row ∨
        earlier.row = later.row ∧ earlier.column ≤ later.column))

/-- The place behind some bytes: the row ends among them, and the bytes since the last of these. -/
def behind (passed : List UInt8) : Point where
  row := passed.count rowEnd
  column := (passed.reverse.takeWhile (· != rowEnd)).length

/-- The place at an offset of a source. -/
def atOffset (source : String) (offset : Nat) : Point :=
  behind ((bytes source).take offset)

/-- One more byte opens a row or a column. -/
theorem behind_concat
    (passed : List UInt8)
    (byte : UInt8) :
    behind (passed ++ [byte]) =
      if byte = rowEnd then
        ⟨(behind passed).row + 1, 0⟩
      else
        ⟨(behind passed).row, (behind passed).column + 1⟩ := by
  split
  next ends =>
    simp [behind, ends]
  next inside =>
    simp [behind, inside, List.count_append]

theorem behind_le_behind_concat
    (passed : List UInt8)
    (byte : UInt8) :
    behind passed ≤ behind (passed ++ [byte]) := by
  rw [behind_concat]
  split
  · exact Or.inl (Nat.lt_succ_self _)
  · exact Or.inr ⟨rfl, Nat.le_succ _⟩

theorem behind_le_behind_append (passed more : List UInt8) :
    behind passed ≤ behind (passed ++ more) := by
  induction more generalizing passed with
  | nil =>
      rw [List.append_nil]
  | cons byte rest ih =>
      calc
        behind passed ≤ behind (passed ++ [byte]) :=
          behind_le_behind_concat passed byte
        _ ≤ behind (passed ++ [byte] ++ rest) := ih (passed ++ [byte])
        _ = behind (passed ++ byte :: rest) := by
          rw [List.append_assoc, List.singleton_append]

/-- A later offset does not lie at an earlier place. -/
theorem atOffset_mono
    (source : String)
    {earlier later : Nat}
    (ordered : earlier ≤ later) :
    atOffset source earlier ≤ atOffset source later := by
  rcases List.take_prefix_take_left (l := bytes source) ordered with
    ⟨more, split⟩
  rw [atOffset, atOffset, ← split]
  exact behind_le_behind_append _ more

end Point

end SoliditySyntax
