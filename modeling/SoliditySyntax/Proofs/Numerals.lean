/-!
# Numerals inside longer texts

A numeral does not say where it ends.  Inside a longer text it is read up to
the first character that is no digit, or, from the end of the text, back to
the last one.  This module shows that both readings give the number back,
whenever the text beside the numeral begins or ends with something else than
a digit.

The digits are those of any base up to sixteen: the same lemmas read decimal
figures and the code points of escaped characters.
-/

namespace SoliditySyntax.Text

/-! ## Digits -/

theorem eq_of_digitChar_eq {first second : Nat}
    (firstSmall : first < 16)
    (secondSmall : second < 16)
    (same : first.digitChar = second.digitChar) :
    first = second := by
  have distinct : ∀ m < 16, ∀ n < 16, m.digitChar = n.digitChar → m = n := by
    decide
  exact distinct first firstSmall second secondSmall same

theorem exists_digitChar_of_mem_toDigits
    {base number : Nat}
    (large : 1 < base)
    {character : Char}
    (member : character ∈ Nat.toDigits base number) :
    ∃ digit, digit < base ∧ character = digit.digitChar := by
  induction number using Nat.strongRecOn with
  | ind number ih =>
      rw [Nat.toDigits_eq_if large] at member
      split at member
      next small =>
        exact ⟨number, small, List.mem_singleton.mp member⟩
      next notSmall =>
        rcases List.mem_append.mp member with leading | last
        · exact ih (number / base) (Nat.div_lt_self (by omega) large) leading
        · exact
            ⟨number % base, Nat.mod_lt number (by omega), List.mem_singleton.mp last⟩

/-- A number is determined by its digits. -/
theorem toDigits_injective {base : Nat} (large : 1 < base) (small : base ≤ 16) :
    Function.Injective (Nat.toDigits base) := by
  intro first
  induction first using Nat.strongRecOn with
  | ind first ih =>
      intro second same
      rw [Nat.toDigits_eq_if large, Nat.toDigits_eq_if (n := second) large] at same
      have longer (number : Nat) (digit last : Char) :
          [digit] ≠ Nat.toDigits base number ++ [last] := by
        simp [List.singleton_eq_append_iff]
      split at same <;> split at same
      next firstSmall secondSmall =>
        exact
          eq_of_digitChar_eq (by omega) (by omega) (List.singleton_inj.mp same)
      next =>
        exact (longer _ _ _ same).elim
      next =>
        exact (longer _ _ _ same.symm).elim
      next =>
        rcases List.append_inj' same rfl with ⟨leading, last⟩
        have sameQuotient : first / base = second / base :=
          ih (first / base) (Nat.div_lt_self (by omega) large) leading
        have sameRemainder : first % base = second % base := by
          have firstBound := Nat.mod_lt first (by omega : 0 < base)
          have secondBound := Nat.mod_lt second (by omega : 0 < base)
          exact
            eq_of_digitChar_eq (by omega) (by omega) (List.singleton_inj.mp last)
        calc
          first = base * (first / base) + first % base := (Nat.div_add_mod ..).symm
          _ = base * (second / base) + second % base := by rw [sameQuotient, sameRemainder]
          _ = second := Nat.div_add_mod ..

/-! ## Where a run of characters ends -/

/-- A run of characters of one sort ends at the first character of another sort. -/
theorem append_inj_of_run
    {sort : Char → Bool}
    {first second : List Char}
    (firstRun : ∀ character ∈ first, sort character)
    (secondRun : ∀ character ∈ second, sort character)
    {firstRest secondRest : List Char}
    (firstStops : ∀ character ∈ firstRest.head?, sort character = false)
    (secondStops : ∀ character ∈ secondRest.head?, sort character = false)
    (same : first ++ firstRest = second ++ secondRest) :
    first = second ∧ firstRest = secondRest := by
  have run_eq {run rest : List Char}
      (isRun : ∀ character ∈ run, sort character)
      (stops : ∀ character ∈ rest.head?, sort character = false) :
      (run ++ rest).takeWhile sort = run := by
    rw [List.takeWhile_append_of_pos isRun]
    cases rest with
    | nil => simp
    | cons character later => simp [stops character rfl]
  have runs : first = second := by
    rw [← run_eq firstRun firstStops, same, run_eq secondRun secondStops]
  subst runs
  exact ⟨rfl, List.append_cancel_left same⟩

/-! ## Decimal numerals -/

/-- No numeral in front of a text runs on into it: the text does not begin with a digit. -/
def NoLeadingDigit (text : String) : Prop :=
  ∀ character ∈ text.toList.head?, character.isDigit = false

theorem isDigit_of_mem_toDigits_ten
    {number : Nat}
    {character : Char}
    (member : character ∈ Nat.toDigits 10 number) :
    character.isDigit :=
  Nat.isDigit_of_mem_toDigits (by omega) (by omega) member

/-- A numeral at the start of a text gives its number and leaves the rest. -/
theorem toString_append_inj
    {first second : Nat}
    {firstRest secondRest : String}
    (firstStops : NoLeadingDigit firstRest)
    (secondStops : NoLeadingDigit secondRest)
    (same : toString first ++ firstRest = toString second ++ secondRest) :
    first = second ∧ firstRest = secondRest := by
  have sameCharacters :
      Nat.toDigits 10 first ++ firstRest.toList =
        Nat.toDigits 10 second ++ secondRest.toList := by
    simpa using congrArg String.toList same
  rcases append_inj_of_run
      (fun _ => isDigit_of_mem_toDigits_ten) (fun _ => isDigit_of_mem_toDigits_ten)
      firstStops secondStops sameCharacters with ⟨digits, rests⟩
  exact
    ⟨toDigits_injective (by omega) (by omega) digits, String.toList_inj.mp rests⟩

/--
A numeral at the end of a text, behind a separator, gives its number and leaves
the rest.  Backwards, its digits are a run that the separator's last character
ends.
-/
theorem append_toString_inj
    {first second : Nat}
    {firstBefore secondBefore separator : String}
    (mark : Char)
    (marked : separator.toList.getLast? = some mark)
    (notDigit : mark.isDigit = false)
    (same :
      firstBefore ++ separator ++ toString first =
        secondBefore ++ separator ++ toString second) :
    firstBefore = secondBefore ∧ first = second := by
  have stops (before : String) :
      ∀ character ∈ (before ++ separator).toList.reverse.head?,
        character.isDigit = false := by
    simp [marked, notDigit]
  have backwards :
      (Nat.toDigits 10 first).reverse ++ (firstBefore ++ separator).toList.reverse =
        (Nat.toDigits 10 second).reverse ++ (secondBefore ++ separator).toList.reverse := by
    simpa using congrArg (List.reverse ∘ String.toList) same
  rcases append_inj_of_run
      (fun _ member => isDigit_of_mem_toDigits_ten (List.mem_reverse.mp member))
      (fun _ member => isDigit_of_mem_toDigits_ten (List.mem_reverse.mp member))
      (stops firstBefore) (stops secondBefore) backwards with ⟨digits, befores⟩
  have sameBefore : firstBefore ++ separator = secondBefore ++ separator :=
    String.toList_inj.mp (List.reverse_inj.mp befores)
  exact
    ⟨(String.append_left_inj separator).mp sameBefore,
      toDigits_injective (by omega) (by omega) (List.reverse_inj.mp digits)⟩

theorem exists_last_digit (number : Nat) :
    ∃ digit : Char, digit.isDigit ∧ (toString number).toList.getLast? = some digit := by
  rw [Nat.toString_eq_repr, Nat.toList_repr]
  have nonempty : Nat.toDigits 10 number ≠ [] := Nat.toDigits_ne_nil
  exact
    ⟨_, isDigit_of_mem_toDigits_ten (List.getLast_mem nonempty),
      List.getLast?_eq_some_getLast nonempty⟩

end SoliditySyntax.Text
