import Mathlib.Data.List.Forall2
import SoliditySyntax.Text.Inspection
import SoliditySyntax.Proofs.Quotations

/-!
# Texts of values that are read back inside longer texts

The text of a value stands inside a record or a list, with more text behind
it.  A way of writing values is legible when it can be read back there: from
the text and what follows it, both the value and the place where its text
ends are found.  What follows is only known not to begin with a digit, since a
numeral alone would run on into it.

Numerals and quoted texts are legible.  This module shows that records and
lists of legible values are read back item by item, because the separators
and the closing bracket behind an item are no part of it.
-/

namespace SoliditySyntax.Text

/-! ## What follows a value -/

/-- A text parts two values when it begins with a character that is no digit. -/
def PartsValues (separator : String) : Prop :=
  ∃ mark, separator.toList.head? = some mark ∧ mark.isDigit = false

theorem noLeadingDigit_empty : NoLeadingDigit "" := by
  simp [NoLeadingDigit]

theorem PartsValues.noLeadingDigit_append
    {separator : String}
    (parts : PartsValues separator)
    (rest : String) :
    NoLeadingDigit (separator ++ rest) := by
  rcases parts with ⟨mark, begins, notDigit⟩
  simp [NoLeadingDigit, List.head?_append, begins, notDigit]

/-! ## Separable texts -/

/--
Two texts are separable when neither can be taken for a beginning of the
other: a longer text that begins with both begins with the same one, and goes
on in the same way.  What stands behind them is only known not to begin with a
digit.
-/
def Separable (first second : String) : Prop :=
  ∀ ⦃firstRest secondRest : String⦄,
    NoLeadingDigit firstRest → NoLeadingDigit secondRest →
      first ++ firstRest = second ++ secondRest → first = second ∧ firstRest = secondRest

/-- The same text may stand in front of two separable ones. -/
theorem Separable.behind
    {first second : String}
    (separable : Separable first second)
    (before : String) :
    Separable (before ++ first) (before ++ second) := by
  intro firstRest secondRest firstStops secondStops same
  rw [String.append_assoc, String.append_assoc, String.append_right_inj] at same
  rcases separable firstStops secondStops same with ⟨rfl, sameRest⟩
  exact ⟨rfl, sameRest⟩

/-! ## Legible ways of writing -/

/-- A way of writing values from which they are read back, also in front of other text. -/
structure Legible {α : Type} (write : α → String) : Prop where
  injective : Function.Injective write
  separable : ∀ first second, Separable (write first) (write second)

/-- It is enough to read the value and the rest from a text with something behind it. -/
theorem Legible.of_append_inj
    {α : Type}
    {write : α → String}
    (readBack :
      ∀ ⦃first second firstRest secondRest⦄,
        NoLeadingDigit firstRest → NoLeadingDigit secondRest →
          write first ++ firstRest = write second ++ secondRest →
            first = second ∧ firstRest = secondRest) :
    Legible write := by
  constructor
  · intro first second same
    exact
      (readBack noLeadingDigit_empty noLeadingDigit_empty
        (congrArg (· ++ "") same)).1
  · intro first second firstRest secondRest firstStops secondStops same
    rcases readBack firstStops secondStops same with ⟨rfl, sameRest⟩
    exact ⟨rfl, sameRest⟩

theorem legible_toString : Legible (toString : Nat → String) :=
  .of_append_inj fun _ _ _ _ => toString_append_inj

theorem legible_quote : Legible quote :=
  .of_append_inj fun _ _ _ _ _ _ => quoteBy_append_inj

/-! ## Items of a list -/

theorem commaSeparated_eq_intercalate (items : List String) :
    commaSeparated items = ", ".intercalate items := by
  induction items with
  | nil => simp [commaSeparated]
  | cons item later ih =>
      cases later with
      | nil => simp [commaSeparated]
      | cons next others => rw [commaSeparated, ih, String.intercalate_cons_cons]

/-- Every item after the first, with the separator in front of it. -/
def laterItems (items : List String) : String :=
  String.join (items.map (", " ++ ·))

@[simp]
theorem laterItems_nil : laterItems [] = "" := by
  simp [laterItems]

@[simp]
theorem laterItems_cons (item : String) (items : List String) :
    laterItems (item :: items) = ", " ++ (item ++ laterItems items) := by
  simp [laterItems, String.append_assoc]

theorem commaSeparated_cons (item : String) (items : List String) :
    commaSeparated (item :: items) = item ++ laterItems items := by
  induction items generalizing item with
  | nil => simp [commaSeparated]
  | cons next later ih =>
      rw [commaSeparated, ih next, laterItems_cons]
      simp only [String.append_assoc]

/-- A text closes a list when it parts values and does not begin with a comma. -/
structure ClosesItems (closing : String) : Prop where
  parts : PartsValues closing
  notComma : closing.toList.head? ≠ some ','

namespace ClosesItems

variable {closing : String}

theorem noLeadingDigit_laterItems
    (closes : ClosesItems closing)
    (items : List String)
    (rest : String) :
    NoLeadingDigit (laterItems items ++ (closing ++ rest)) := by
  cases items with
  | nil =>
      rw [laterItems_nil, String.empty_append]
      exact closes.parts.noLeadingDigit_append rest
  | cons item items =>
      rw [laterItems_cons, String.append_assoc]
      have parts : PartsValues ", " := ⟨',', by decide, by decide⟩
      exact parts.noLeadingDigit_append _

theorem append_ne_laterItems_cons
    (closes : ClosesItems closing)
    (rest item : String)
    (items : List String)
    (itemsRest : String) :
    closing ++ rest ≠ laterItems (item :: items) ++ itemsRest := by
  intro same
  rcases closes.parts with ⟨mark, begins, -⟩
  have comma : mark = ',' := by
    simpa [List.head?_append, begins] using
      congrArg (List.head? ∘ String.toList) same
  exact closes.notComma (comma ▸ begins)

/-- The items of a list are read one by one up to the text that closes it. -/
theorem laterItems_append_inj
    (closes : ClosesItems closing)
    {first second : List String}
    (separable : ∀ pair ∈ first.zip second, Separable pair.1 pair.2)
    {firstRest secondRest : String}
    (same :
      laterItems first ++ (closing ++ firstRest) =
        laterItems second ++ (closing ++ secondRest)) :
    first = second ∧ firstRest = secondRest := by
  induction first generalizing second with
  | nil =>
      cases second with
      | nil =>
          exact ⟨rfl, by simpa using same⟩
      | cons other others =>
          rw [laterItems_nil, String.empty_append] at same
          exact (closes.append_ne_laterItems_cons _ _ _ _ same).elim
  | cons item items ih =>
      cases second with
      | nil =>
          rw [laterItems_nil, String.empty_append] at same
          exact (closes.append_ne_laterItems_cons _ _ _ _ same.symm).elim
      | cons other others =>
          rw [List.zip_cons_cons, List.forall_mem_cons] at separable
          have itemSeparable : Separable item other := separable.1
          rw [laterItems_cons, laterItems_cons] at same
          simp only [String.append_assoc, String.append_right_inj] at same
          rcases itemSeparable (closes.noLeadingDigit_laterItems items _)
              (closes.noLeadingDigit_laterItems others _) same with ⟨rfl, sameLater⟩
          rcases ih separable.2 sameLater with ⟨rfl, sameRest⟩
          exact ⟨rfl, sameRest⟩

/-- With a separator in front, the first item of a list is written like the later ones. -/
theorem commaSeparated_append_inj
    (closes : ClosesItems closing)
    {item other : String}
    {items others : List String}
    (separable : ∀ pair ∈ (item :: items).zip (other :: others), Separable pair.1 pair.2)
    {firstRest secondRest : String}
    (same :
      commaSeparated (item :: items) ++ (closing ++ firstRest) =
        commaSeparated (other :: others) ++ (closing ++ secondRest)) :
    item :: items = other :: others ∧ firstRest = secondRest := by
  apply closes.laterItems_append_inj separable
  simp only [commaSeparated_cons, String.append_assoc] at same
  simp only [laterItems_cons, String.append_assoc, same]

end ClosesItems

/-! ## Lists and records -/

/-- A list of legible values tells its values; an empty item would look like no item. -/
theorem Legible.bracketed_injective
    {α : Type}
    {write : α → String}
    (legible : Legible write)
    (filled : ∀ value, write value ≠ "") :
    Function.Injective fun values : List α => bracketed (values.map write) := by
  intro first second same
  have sameItems : commaSeparated (first.map write) = commaSeparated (second.map write) :=
    (String.append_right_inj "[").mp ((String.append_left_inj "]").mp same)
  have nonempty (value : α) (values : List α) :
      commaSeparated ((value :: values).map write) ≠ "" := by
    cases values <;> simp [commaSeparated, filled]
  have sameTexts : first.map write = second.map write := by
    cases first with
    | nil =>
        cases second with
        | nil => rfl
        | cons other others => exact (nonempty other others sameItems.symm).elim
    | cons value values =>
        cases second with
        | nil => exact (nonempty value values sameItems).elim
        | cons other others =>
            have closes : ClosesItems "]" := ⟨⟨']', by decide, by decide⟩, by decide⟩
            have pairs :
                ∀ pair ∈ ((value :: values).map write).zip ((other :: others).map write),
                  Separable pair.1 pair.2 := by
              rw [List.zip_map, List.forall_mem_map]
              intro pair _
              exact legible.separable pair.1 pair.2
            exact
              (closes.commaSeparated_append_inj pairs
                (congrArg (· ++ ("]" ++ "")) sameItems)).1
  exact List.map_injective_iff.mpr legible.injective sameTexts

theorem closesItems_brace : ClosesItems " \x7d" :=
  ⟨⟨' ', by decide, by decide⟩, by decide⟩

/-- Two fields of the same name whose values are separable. -/
structure SameField (field other : String × String) : Prop where
  name : field.1 = other.1
  separable : Separable field.2 other.2

namespace SameField

variable {field other : String × String}

theorem separable_fieldText (agree : SameField field other) :
    Separable (fieldText field) (fieldText other) := by
  rw [fieldText, fieldText, agree.name]
  exact agree.separable.behind _

theorem eq_of_fieldText_eq
    (agree : SameField field other)
    (same : fieldText field = fieldText other) :
    field = other := by
  rw [fieldText, fieldText, agree.name, String.append_right_inj] at same
  exact Prod.ext agree.name same

end SameField

theorem eq_of_map_fieldText_eq
    {fields others : List (String × String)}
    (agree : List.Forall₂ SameField fields others)
    (same : fields.map fieldText = others.map fieldText) :
    fields = others := by
  induction agree with
  | nil => rfl
  | cons first later ih =>
      rcases List.cons.inj same with ⟨sameFirst, sameLater⟩
      rw [first.eq_of_fieldText_eq sameFirst, ih sameLater]

/-- Two records with the same title and the same field names are read back field by field. -/
theorem record_append_inj
    {title : String}
    {fields others : List (String × String)}
    (agree : List.Forall₂ SameField fields others)
    {firstRest secondRest : String}
    (same : record title fields ++ firstRest = record title others ++ secondRest) :
    fields = others ∧ firstRest = secondRest := by
  have pairs :
      ∀ pair ∈ (fields.map fieldText).zip (others.map fieldText),
        Separable pair.1 pair.2 := by
    rw [List.zip_map, List.forall_mem_map]
    intro pair member
    exact (List.forall₂_zip agree member).separable_fieldText
  have sameTexts : fields.map fieldText = others.map fieldText ∧ firstRest = secondRest := by
    simp only [record, String.append_assoc, String.append_right_inj] at same
    cases agree with
    | nil => exact ⟨rfl, by simpa [commaSeparated] using same⟩
    | cons => exact closesItems_brace.commaSeparated_append_inj pairs same
  exact ⟨eq_of_map_fieldText_eq agree sameTexts.1, sameTexts.2⟩

theorem record_inj
    {title : String}
    {fields others : List (String × String)}
    (agree : List.Forall₂ SameField fields others)
    (same : record title fields = record title others) :
    fields = others :=
  (record_append_inj agree (congrArg (· ++ "") same)).1

/-- A record of one legible value tells the value. -/
theorem Legible.eq_of_record_eq
    {α : Type}
    {write : α → String}
    (legible : Legible write)
    {title name : String}
    {first second : α}
    (same : record title [(name, write first)] = record title [(name, write second)]) :
    first = second := by
  have agree : List.Forall₂ SameField [(name, write first)] [(name, write second)] :=
    .cons ⟨rfl, legible.separable first second⟩ .nil
  have sameFields := record_inj agree same
  simp only [List.cons.injEq, Prod.mk.injEq, true_and, and_true] at sameFields
  exact legible.injective sameFields

/-- The first field of a record can be read back even when the later ones cannot be told apart. -/
theorem record_cons_inj
    {title name value other : String}
    (separable : Separable value other)
    {fields others : List (String × String)}
    (same : record title ((name, value) :: fields) = record title ((name, other) :: others)) :
    value = other ∧
      laterItems (fields.map fieldText) = laterItems (others.map fieldText) := by
  have sameItems :
      commaSeparated (((name, value) :: fields).map fieldText) =
        commaSeparated (((name, other) :: others).map fieldText) :=
    (String.append_right_inj _).mp ((String.append_left_inj _).mp same)
  rw [List.map_cons, List.map_cons, commaSeparated_cons, commaSeparated_cons] at sameItems
  have sameText := congrArg (· ++ (" \x7d" ++ "")) sameItems
  simp only [String.append_assoc] at sameText
  have fieldSeparable : Separable (fieldText (name, value)) (fieldText (name, other)) :=
    separable.behind _
  rcases fieldSeparable (closesItems_brace.noLeadingDigit_laterItems _ _)
      (closesItems_brace.noLeadingDigit_laterItems _ _) sameText with ⟨sameField, sameLater⟩
  exact
    ⟨(String.append_right_inj _).mp sameField, (String.append_left_inj _).mp sameLater⟩

end SoliditySyntax.Text
