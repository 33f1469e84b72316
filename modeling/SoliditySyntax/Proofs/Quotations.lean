import SoliditySyntax.Text.Inspection
import SoliditySyntax.Proofs.Numerals

/-!
# Quoted texts are read back in one way

A quoted text may hold anything between its quotes: other quotes, backslashes,
and characters that look like an escape.  This module shows that it is read
back in one way only, also in front of further text, because every character
is spelled in a way that no other character begins with and that the closing
quote cannot be taken for.

Nothing here depends on the table of characters without a visible form.  A
character may be spelled by its code point or stand for itself, and either
spelling is told from those of all other characters.
-/

namespace SoliditySyntax.Text

/-! ## Spellings of a character -/

/-- The characters that are spelled with a backslash and one letter, each with its letter. -/
def shortForms : List (Char × Char) :=
  [('"', '"'), ('\\', '\\'), ('\x00', '0'), ('\t', 't'), ('\n', 'n'), ('\r', 'r')]

/--
The spellings of a character between quotes.  Whether a character stands for
itself or is written by its code point is left open, except that a quote and a
backslash never stand for themselves.
-/
inductive Spells : Char → List Char → Prop where
  | short {character letter : Char} (listed : (character, letter) ∈ shortForms) :
      Spells character ['\\', letter]
  | codePoint (character : Char) : Spells character (codePointEscape character)
  | plain {character : Char} (notQuote : character ≠ '"') (notBackslash : character ≠ '\\') :
      Spells character [character]

theorem spells_escapeBy (hidden : Char → Bool) (character : Char) :
    Spells character (escapeBy hidden character) := by
  rw [escapeBy.eq_def]
  split
  case h_7 notQuote notBackslash _ _ _ _ =>
    split
    · exact .codePoint character
    · exact .plain notQuote notBackslash
  all_goals exact .short (by decide)

theorem eq_of_short
    {first second letter : Char}
    (firstListed : (first, letter) ∈ shortForms)
    (secondListed : (second, letter) ∈ shortForms) :
    first = second := by
  have distinct :
      ∀ form ∈ shortForms, ∀ other ∈ shortForms, form.2 = other.2 → form.1 = other.1 := by
    decide
  exact distinct _ firstListed _ secondListed rfl

theorem letter_ne_u
    {character letter : Char}
    (listed : (character, letter) ∈ shortForms) :
    letter ≠ 'u' := by
  have apart : ∀ form ∈ shortForms, form.2 ≠ 'u' := by
    decide
  exact apart _ listed

/-- A code point ends at the first closing brace, which is no digit of it. -/
theorem codePointEscape_append_inj
    {first second : Char}
    {firstRest secondRest : List Char}
    (same : codePointEscape first ++ firstRest = codePointEscape second ++ secondRest) :
    first = second ∧ firstRest = secondRest := by
  have sameDigits :
      Nat.toDigits 16 first.toNat ++ '\x7d' :: firstRest =
        Nat.toDigits 16 second.toNat ++ '\x7d' :: secondRest := by
    simpa [codePointEscape] using same
  have noBrace (codePoint : Nat) :
      ∀ character ∈ Nat.toDigits 16 codePoint, character != '\x7d' := by
    intro character member
    rcases exists_digitChar_of_mem_toDigits (by omega) member with ⟨digit, -, rfl⟩
    exact bne_iff_ne.mpr (Nat.digitChar_ne '\x7d' (by decide))
  rcases append_inj_of_run (noBrace first.toNat) (noBrace second.toNat)
      (by simp) (by simp) sameDigits with ⟨digits, rests⟩
  have sameCodePoint : first.toNat = second.toNat :=
    toDigits_injective (by omega) (by omega) digits
  exact ⟨Char.toNat_inj.mp sameCodePoint, List.tail_eq_of_cons_eq rests⟩

namespace Spells

/-- The first spelling in a text gives its character and leaves the rest. -/
theorem append_inj
    {first second : Char}
    {firstSpelling secondSpelling firstRest secondRest : List Char}
    (firstSpells : Spells first firstSpelling)
    (secondSpells : Spells second secondSpelling)
    (same : firstSpelling ++ firstRest = secondSpelling ++ secondRest) :
    first = second ∧ firstRest = secondRest := by
  cases firstSpells with
  | short firstListed =>
      cases secondSpells with
      | short secondListed =>
          simp only [List.cons_append, List.nil_append, List.cons.injEq, true_and] at same
          rcases same with ⟨rfl, sameRest⟩
          exact ⟨eq_of_short firstListed secondListed, sameRest⟩
      | codePoint =>
          simp [codePointEscape, letter_ne_u firstListed] at same
      | plain _ notBackslash =>
          simp [notBackslash.symm] at same
  | codePoint =>
      cases secondSpells with
      | short secondListed =>
          simp [codePointEscape, (letter_ne_u secondListed).symm] at same
      | codePoint =>
          exact codePointEscape_append_inj same
      | plain _ notBackslash =>
          simp [codePointEscape, notBackslash.symm] at same
  | plain _ firstNotBackslash =>
      cases secondSpells with
      | short =>
          simp [firstNotBackslash] at same
      | codePoint =>
          simp [codePointEscape, firstNotBackslash] at same
      | plain =>
          simpa using same

/-- No spelling is taken for the closing quote. -/
theorem append_ne_quote_cons
    {character : Char}
    {spelling : List Char}
    (spells : Spells character spelling)
    (rest later : List Char) :
    spelling ++ rest ≠ '"' :: later := by
  cases spells with
  | short => simp
  | codePoint => simp [codePointEscape]
  | plain notQuote => simp [notQuote]

end Spells

/-! ## Quoted texts -/

/-- The characters of a text are read up to the closing quote, whatever stands behind it. -/
theorem encodeBy_append_quote_inj
    {hidden : Char → Bool}
    {first second firstRest secondRest : List Char}
    (same :
      encodeBy hidden first ++ '"' :: firstRest =
        encodeBy hidden second ++ '"' :: secondRest) :
    first = second ∧ firstRest = secondRest := by
  induction first generalizing second with
  | nil =>
      cases second with
      | nil =>
          exact ⟨rfl, List.tail_eq_of_cons_eq same⟩
      | cons other others =>
          rw [encodeBy_cons, List.append_assoc] at same
          exact ((spells_escapeBy hidden other).append_ne_quote_cons _ _ same.symm).elim
  | cons character characters ih =>
      cases second with
      | nil =>
          rw [encodeBy_cons, List.append_assoc] at same
          exact ((spells_escapeBy hidden character).append_ne_quote_cons _ _ same).elim
      | cons other others =>
          rw [encodeBy_cons, encodeBy_cons, List.append_assoc, List.append_assoc] at same
          rcases (spells_escapeBy hidden character).append_inj (spells_escapeBy hidden other)
              same with ⟨rfl, sameLater⟩
          rcases ih sameLater with ⟨rfl, sameRest⟩
          exact ⟨rfl, sameRest⟩

/-- A quoted text in front of any other gives its text and leaves the rest. -/
theorem quoteBy_append_inj
    {hidden : Char → Bool}
    {first second firstRest secondRest : String}
    (same : quoteBy hidden first ++ firstRest = quoteBy hidden second ++ secondRest) :
    first = second ∧ firstRest = secondRest := by
  have sameCharacters :
      encodeBy hidden first.toList ++ '"' :: firstRest.toList =
        encodeBy hidden second.toList ++ '"' :: secondRest.toList := by
    simpa [quoteBy] using congrArg String.toList same
  rcases encodeBy_append_quote_inj sameCharacters with ⟨texts, rests⟩
  exact ⟨String.toList_inj.mp texts, String.toList_inj.mp rests⟩

/-- A text that looks like an escape is written apart from the accent that it looks like. -/
example :
    quote "\\u\x7b301\x7d" = "\"\\\\u\x7b301\x7d\"" ∧
      quote "\u0301" = "\"\\u\x7b301\x7d\"" := by
  decide

end SoliditySyntax.Text
