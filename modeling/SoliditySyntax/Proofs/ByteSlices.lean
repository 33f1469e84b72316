import SoliditySyntax.Document
import SoliditySyntax.Proofs.Positions
import SoliditySyntax.Proofs.Ranges
import SoliditySyntax.Proofs.Slices

/-!
# Slices by the bytes of a source

A slice is cut from the characters of a source, while a range counts bytes.
This module supplies both readings of a slice in bytes: which ranges cut no
character, told by the bytes at their ends, and where the bytes of a slice
stand among those of its source.

The main theorem says of any node, whatever tree it comes from, that its text
is cut out exactly when its range covers whole characters of the source, and
that the text is then the only one whose bytes stand there.  An empty range
inside a character is why the first half is needed: the empty text stands
there as well, and it is not a slice.
-/

namespace SoliditySyntax

namespace Text

/-! ## Bytes of texts -/

theorem bytes_append (before after : String) :
    bytes (before ++ after) = bytes before ++ bytes after := by
  rw [bytes, String.toList_append, List.flatMap_append, bytes, bytes]

/-- A text is determined by its bytes. -/
theorem bytes_injective : Function.Injective bytes := by
  intro first second same
  apply String.toByteArray_inj.mp
  rw [toByteArray_eq_bytes, toByteArray_eq_bytes, same]

/-! ## Ends of characters -/

/-- An offset parts characters when it is an end of the source or the first byte of a character. -/
def PartsCharacters (source : String) (offset : Nat) : Prop :=
  offset = 0 ∨ offset = source.utf8ByteSize ∨
    ∃ byte ∈ (bytes source)[offset]?, byte.IsUTF8FirstByte

instance (source : String) (offset : Nat) : Decidable (PartsCharacters source offset) :=
  inferInstanceAs
    (Decidable
      (offset = 0 ∨ offset = source.utf8ByteSize ∨
        ∃ byte ∈ (bytes source)[offset]?, byte.IsUTF8FirstByte))

theorem isBoundary_zero (source : String) : IsBoundary source 0 :=
  isBoundary_iff.mpr ⟨"", source, String.empty_append.symm, String.utf8ByteSize_empty⟩

/-- The boundaries of a source can be told from the bytes at them. -/
theorem isBoundary_iff_partsCharacters {source : String} {offset : Nat} :
    IsBoundary source offset ↔ PartsCharacters source offset := by
  have firstByte :
      IsBoundary source offset ↔
        offset = source.utf8ByteSize ∨
          ∃ byte ∈ (bytes source)[offset]?, byte.IsUTF8FirstByte := by
    rw [IsBoundary, String.Pos.Raw.isValid_iff_isUTF8FirstByte]
    simp [String.Pos.Raw.ext_iff, String.Pos.Raw.lt_iff, String.getUTF8Byte,
      toByteArray_eq_bytes, List.getElem?_eq_some_iff]
  constructor
  · intro boundary
    exact Or.inr (firstByte.mp boundary)
  · rintro (rfl | atEndOrByte)
    · exact isBoundary_zero source
    · exact firstByte.mpr atEndOrByte

/-- A range covers whole characters of a source. -/
@[mk_iff]
structure ByteRange.CoversCharacters (range : ByteRange) (source : String) : Prop where
  ordered : range.start ≤ range.stop
  inside : range.stop ≤ source.utf8ByteSize
  startsAt : PartsCharacters source range.start
  stopsAt : PartsCharacters source range.stop

instance (range : ByteRange) (source : String) : Decidable (range.CoversCharacters source) :=
  decidable_of_iff _ (range.coversCharacters_iff source).symm

theorem ByteRange.fits_iff_coversCharacters {range : ByteRange} {source : String} :
    range.Fits source ↔ range.CoversCharacters source := by
  constructor
  · intro fits
    exact
      ⟨fits.ordered, fits.stop_le, isBoundary_iff_partsCharacters.mp fits.startsAt,
        isBoundary_iff_partsCharacters.mp fits.stopsAt⟩
  · intro covers
    exact
      ⟨covers.ordered, isBoundary_iff_partsCharacters.mpr covers.startsAt,
        isBoundary_iff_partsCharacters.mpr covers.stopsAt⟩

/-! ## Where a text stands -/

/-- The bytes of a text are those that a source has in a range. -/
def StandsAt (text source : String) (range : ByteRange) : Prop :=
  ∃ before after,
    bytes source = before ++ bytes text ++ after ∧
      before.length = range.start ∧ before.length + (bytes text).length = range.stop

theorem standsAt_of_slice
    {source text : String}
    {range : ByteRange}
    (cut : slice source range = .ok text) :
    StandsAt text source range := by
  rcases slice_eq_ok_iff.mp cut with ⟨before, after, rfl, startEq, stopEq⟩
  refine ⟨bytes before, bytes after, ?_, ?_, ?_⟩
  · rw [bytes_append, bytes_append]
  · rw [length_bytes, startEq]
  · rw [length_bytes, length_bytes, ← String.utf8ByteSize_append, stopEq]

/-- At most one text stands at a range of a source. -/
theorem StandsAt.unique
    {first second source : String}
    {range : ByteRange}
    (firstStands : StandsAt first source range)
    (secondStands : StandsAt second source range) :
    first = second := by
  rcases firstStands with ⟨before, after, sourceEq, startEq, stopEq⟩
  rcases secondStands with ⟨before', after', sourceEq', startEq', stopEq'⟩
  have same : before ++ (bytes first ++ after) = before' ++ (bytes second ++ after') := by
    rw [← List.append_assoc, ← sourceEq, sourceEq', List.append_assoc]
  rcases List.append_inj same (startEq.trans startEq'.symm) with ⟨rfl, sameBehind⟩
  exact bytes_injective (List.append_inj_left sameBehind (by omega))

end Text

open SoliditySyntax.Text

namespace Document

/--
The text of a node is cut out of a source exactly when the node's range covers
whole characters of that source.  It is then the only text whose bytes stand
there; in every other case the cut fails, and the failure names the range.
-/
theorem textOf_determined
    (document : Document)
    (node : Node) :
    ((∃ text, document.textOf node = .ok text) ↔
        node.range.CoversCharacters document.source) ∧
      (∀ text, document.textOf node = .ok text →
        StandsAt text document.source node.range ∧
          ∀ other, StandsAt other document.source node.range → other = text) ∧
      (document.textOf node = .error ⟨node.range⟩ ↔
        ¬ node.range.CoversCharacters document.source) := by
  refine ⟨?_, ?_, ?_⟩
  · exact exists_slice_iff.trans ByteRange.fits_iff_coversCharacters
  · intro text cut
    have stands : StandsAt text document.source node.range := standsAt_of_slice cut
    exact ⟨stands, fun other otherStands => otherStands.unique stands⟩
  · rw [← ByteRange.fits_iff_coversCharacters]
    exact slice_eq_error_iff.trans (and_iff_left rfl)

/-- A source of four letters that take one to four bytes. -/
def lettersSample : Document where
  source := "aé€😀"
  tree := .node ⟨"source_file", true, false, false, false, none, ⟨0, 10⟩, ⟨0, 0⟩, ⟨0, 10⟩⟩ []

/-- A node of some other tree, with a range of its own. -/
def leafAt (start stop : Nat) : Node :=
  ⟨4,
    .node ⟨"identifier", true, false, false, false, none, ⟨start, stop⟩, ⟨0, start⟩, ⟨0, stop⟩⟩
      []⟩

/-- Two letters are cut out; inside a letter even the empty text that stands there is none. -/
theorem textOf_lettersSample :
    lettersSample.textOf (leafAt 1 6) = .ok "é€" ∧
      (∀ other, StandsAt other lettersSample.source ⟨1, 6⟩ → other = "é€") ∧
        StandsAt "" lettersSample.source ⟨4, 4⟩ ∧
          lettersSample.textOf (leafAt 4 4) = .error ⟨⟨4, 4⟩⟩ ∧
            lettersSample.textOf (leafAt 10 11) = .error ⟨⟨10, 11⟩⟩ := by
  have cut : lettersSample.textOf (leafAt 1 6) = .ok "é€" := by decide
  have inside : ¬ (leafAt 4 4).range.CoversCharacters lettersSample.source := by decide
  have behind : ¬ (leafAt 10 11).range.CoversCharacters lettersSample.source := by decide
  rcases textOf_determined lettersSample (leafAt 1 6) with ⟨-, determined, -⟩
  rcases textOf_determined lettersSample (leafAt 4 4) with ⟨-, -, failsInside⟩
  rcases textOf_determined lettersSample (leafAt 10 11) with ⟨-, -, failsBehind⟩
  refine ⟨cut, (determined _ cut).2, ?_, failsInside.mpr inside, failsBehind.mpr behind⟩
  exact ⟨[0x61, 0xC3, 0xA9, 0xE2], [0x82, 0xAC, 0xF0, 0x9F, 0x98, 0x80], by decide, rfl, rfl⟩

end Document

end SoliditySyntax
