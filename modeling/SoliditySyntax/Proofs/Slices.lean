import SoliditySyntax.Text.Bytes
import Mathlib.Tactic.MkIffOfInductiveProp

/-!
# Slices of a source

The slice that a range covers is determined by a split of the source: what
stands before the slice has as many bytes as the range's start says, and
together with the slice as many as its stop says.  This module supplies that
law, says which ranges cover a slice at all, and relates slices of one source
to one another.

Everything rests on one fact about texts.  When a text is split twice, and the
first split is not behind the second one, then what stands between the two is
a text again, so no character is cut.
-/

namespace SoliditySyntax.Text

/-! ## Splits -/

/-- An offset is a boundary of a source when it lies between two characters or at an end. -/
def IsBoundary (source : String) (offset : Nat) : Prop :=
  String.Pos.Raw.IsValid source ⟨offset⟩

instance (source : String) (offset : Nat) : Decidable (IsBoundary source offset) :=
  inferInstanceAs (Decidable (String.Pos.Raw.IsValid source ⟨offset⟩))

theorem isBoundary_iff {source : String} {offset : Nat} :
    IsBoundary source offset ↔
      ∃ before after, source = before ++ after ∧ before.utf8ByteSize = offset := by
  simp only [IsBoundary, String.Pos.Raw.isValid_iff_exists_append, String.Pos.Raw.ext_iff,
    String.byteIdx_rawEndPos, eq_comm (a := offset)]

theorem byteLength_eq_utf8ByteSize (characters : List Char) :
    byteLength characters = (String.ofList characters).utf8ByteSize := by
  induction characters with
  | nil =>
      rfl
  | cons character rest ih =>
      rw [← List.singleton_append, String.ofList_append, String.utf8ByteSize_append,
        ← String.singleton_eq_ofList, String.utf8ByteSize_singleton,
        List.singleton_append, byteLength_cons, ih]

theorem eq_append_ofList
    {text before : String}
    {characters : List Char}
    (split : text.toList = before.toList ++ characters) :
    text = before ++ String.ofList characters := by
  rw [← String.toList_inj, String.toList_append, String.toList_ofList, split]

theorem eq_ofList_append
    {text after : String}
    {characters : List Char}
    (split : text.toList = characters ++ after.toList) :
    text = String.ofList characters ++ after := by
  rw [← String.toList_inj, String.toList_append, String.toList_ofList, split]

theorem eq_empty_of_append_le
    {before between : String}
    (notLonger : (before ++ between).utf8ByteSize ≤ before.utf8ByteSize) :
    between = "" := by
  rw [String.utf8ByteSize_append] at notLonger
  exact String.utf8ByteSize_eq_zero_iff.mp (by omega)

/-- A text can be cut again where it was joined. -/
theorem splitAtByte?_append (before after : String) :
    splitAtByte? (before ++ after).toList before.utf8ByteSize =
      some (before.toList, after.toList) := by
  apply (splitAtByte?_eq_some_iff ..).mpr
  refine ⟨String.toList_append, ?_⟩
  rw [byteLength_eq_utf8ByteSize, String.ofList_toList]

/-- When a text is split twice, a text stands between the earlier split and the later one. -/
theorem exists_between
    {before after before' after' : String}
    (same : before ++ after = before' ++ after')
    (ordered : before.utf8ByteSize ≤ before'.utf8ByteSize) :
    ∃ between, before' = before ++ between ∧ after = between ++ after' := by
  have characters : before.toList ++ after.toList = before'.toList ++ after'.toList := by
    rw [← String.toList_append, same, String.toList_append]
  rcases List.append_eq_append_iff.mp characters with
    ⟨between, longer, shorter⟩ | ⟨between, longer, shorter⟩
  · exact ⟨String.ofList between, eq_append_ofList longer, eq_ofList_append shorter⟩
  · -- The second split is not behind the first one, so here both are at the same offset.
    obtain rfl := eq_append_ofList longer
    have empty : String.ofList between = "" := eq_empty_of_append_le ordered
    refine ⟨"", by simp [empty], ?_⟩
    rw [eq_ofList_append shorter, empty, String.empty_append, String.empty_append]

/-- There is one split of a text at an offset. -/
theorem split_unique
    {before after before' after' : String}
    (same : before ++ after = before' ++ after')
    (level : before.utf8ByteSize = before'.utf8ByteSize) :
    before = before' ∧ after = after' := by
  rcases exists_between same (Nat.le_of_eq level) with ⟨between, rfl, rfl⟩
  have empty : between = "" := eq_empty_of_append_le (Nat.le_of_eq level.symm)
  simp [empty]

/-! ## The law of slices -/

theorem slice_eq_ok_iff {source text : String} {range : ByteRange} :
    slice source range = .ok text ↔
      ∃ before after, source = before ++ text ++ after ∧
        before.utf8ByteSize = range.start ∧
          (before ++ text).utf8ByteSize = range.stop := by
  constructor
  · intro cut
    unfold slice at cut
    split at cut
    next =>
      cases cut
    next covered after atStop =>
      split at cut
      next =>
        cases cut
      next before inside atStart =>
        rcases (splitAtByte?_eq_some_iff ..).mp atStop with ⟨sourceEq, stopEq⟩
        rcases (splitAtByte?_eq_some_iff ..).mp atStart with ⟨rfl, startEq⟩
        injection cut with textEq
        refine ⟨String.ofList before, String.ofList after, ?_, ?_, ?_⟩
        · rw [← textEq, ← String.ofList_append, ← String.ofList_append, ← sourceEq,
            String.ofList_toList]
        · rw [← byteLength_eq_utf8ByteSize, startEq]
        · rw [← textEq, ← String.ofList_append, ← byteLength_eq_utf8ByteSize, stopEq]
  · rintro ⟨before, after, rfl, startEq, stopEq⟩
    simp only [slice, ← startEq, ← stopEq, splitAtByte?_append, String.ofList_toList]

/-- A range fits a source when it is not reversed and both of its ends are boundaries of it. -/
@[mk_iff]
structure ByteRange.Fits (range : ByteRange) (source : String) : Prop where
  ordered : range.start ≤ range.stop
  startsAt : IsBoundary source range.start
  stopsAt : IsBoundary source range.stop

instance (range : ByteRange) (source : String) : Decidable (range.Fits source) :=
  decidable_of_iff _ (range.fits_iff source).symm

/-- The ranges that fit a source are those that cover a slice of it. -/
theorem exists_slice_iff {source : String} {range : ByteRange} :
    (∃ text, slice source range = .ok text) ↔ range.Fits source := by
  simp only [slice_eq_ok_iff]
  constructor
  · rintro ⟨text, before, after, rfl, startEq, stopEq⟩
    refine ⟨?_, ?_, ?_⟩
    · rw [← startEq, ← stopEq, String.utf8ByteSize_append]
      exact Nat.le_add_right _ _
    · exact isBoundary_iff.mpr ⟨before, text ++ after, String.append_assoc, startEq⟩
    · exact isBoundary_iff.mpr ⟨before ++ text, after, rfl, stopEq⟩
  · rintro ⟨ordered, atStart, atStop⟩
    rcases isBoundary_iff.mp atStart with ⟨before, behind, rfl, startEq⟩
    rcases isBoundary_iff.mp atStop with ⟨covered, after, same, stopEq⟩
    rcases exists_between same (by omega) with ⟨text, rfl, rfl⟩
    exact ⟨text, before, after, String.append_assoc.symm, startEq, stopEq⟩

/-- The failure to cut a source names the range that was asked for. -/
theorem range_of_slice_eq_error
    {source : String}
    {range : ByteRange}
    {bad : BadRange}
    (failed : slice source range = .error bad) :
    bad = ⟨range⟩ := by
  unfold slice at failed
  split at failed
  next =>
    cases failed
    rfl
  next =>
    split at failed
    next =>
      cases failed
      rfl
    next =>
      cases failed

theorem slice_eq_error_iff {source : String} {range : ByteRange} {bad : BadRange} :
    slice source range = .error bad ↔ ¬ range.Fits source ∧ bad = ⟨range⟩ := by
  rw [← exists_slice_iff]
  cases answer : slice source range with
  | ok text =>
      simp
  | error found =>
      obtain rfl := range_of_slice_eq_error answer
      simp [eq_comm]

theorem ByteRange.Fits.stop_le
    {range : ByteRange}
    {source : String}
    (fits : range.Fits source) :
    range.stop ≤ source.utf8ByteSize :=
  fits.stopsAt.le_utf8ByteSize

/-- A slice has as many bytes as its range. -/
theorem utf8ByteSize_of_slice
    {source text : String}
    {range : ByteRange}
    (cut : slice source range = .ok text) :
    range.start + text.utf8ByteSize = range.stop := by
  rcases slice_eq_ok_iff.mp cut with ⟨before, after, -, startEq, stopEq⟩
  rw [← startEq, ← stopEq, String.utf8ByteSize_append]

theorem slice_whole (source : String) :
    slice source ⟨0, source.utf8ByteSize⟩ = .ok source :=
  slice_eq_ok_iff.mpr ⟨"", "", by simp, by simp, by simp⟩

/-- The slices of two ranges that meet make up the slice of the range that joins them. -/
theorem slice_append
    {source first second : String}
    {start middle stop : Nat}
    (firstCut : slice source ⟨start, middle⟩ = .ok first)
    (secondCut : slice source ⟨middle, stop⟩ = .ok second) :
    slice source ⟨start, stop⟩ = .ok (first ++ second) := by
  rcases slice_eq_ok_iff.mp firstCut with ⟨before, after, sourceEq, startEq, middleEq⟩
  rcases slice_eq_ok_iff.mp secondCut with ⟨before', after', sourceEq', middleEq', stopEq⟩
  have same : before ++ first ++ after = before' ++ (second ++ after') := by
    rw [← sourceEq, sourceEq', String.append_assoc]
  rcases split_unique same (middleEq.trans middleEq'.symm) with ⟨rfl, rfl⟩
  refine slice_eq_ok_iff.mpr ⟨before, after', ?_, startEq, ?_⟩
  · simpa only [String.append_assoc] using sourceEq'
  · simpa only [String.append_assoc] using stopEq

/-- The slice of a range inside another one is a part of the slice of that one. -/
theorem exists_slice_inside
    {source text part : String}
    {outer inner : ByteRange}
    (textCut : slice source outer = .ok text)
    (partCut : slice source inner = .ok part)
    (starts : outer.start ≤ inner.start)
    (stops : inner.stop ≤ outer.stop) :
    ∃ before after, text = before ++ part ++ after ∧
      outer.start + before.utf8ByteSize = inner.start := by
  rcases slice_eq_ok_iff.mp textCut with ⟨ahead, behind, sourceEq, startEq, stopEq⟩
  rcases slice_eq_ok_iff.mp partCut with ⟨ahead', behind', sourceEq', startEq', stopEq'⟩
  have sameAhead : ahead ++ (text ++ behind) = ahead' ++ (part ++ behind') := by
    rw [← String.append_assoc, ← sourceEq, sourceEq', String.append_assoc]
  rcases exists_between sameAhead (by omega) with ⟨before, rfl, sameBehind⟩
  simp only [String.utf8ByteSize_append] at startEq' stopEq stopEq'
  have sameText : before ++ part ++ behind' = text ++ behind := by
    rw [sameBehind, String.append_assoc]
  have ordered : (before ++ part).utf8ByteSize ≤ text.utf8ByteSize := by
    rw [String.utf8ByteSize_append]
    omega
  rcases exists_between sameText ordered with ⟨after, textEq, -⟩
  exact ⟨before, after, textEq, by omega⟩

end SoliditySyntax.Text
