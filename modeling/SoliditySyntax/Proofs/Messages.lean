import SoliditySyntax.Grammar.Failure
import SoliditySyntax.Proofs.Numerals

/-!
# Messages of failures tell them apart

The message of a failure puts the name of the grammar in as it is, so a name
can look like the wording around it, up to the whole message of another
failure.  What a name cannot reach are the two ends of a message.  The causes
differ in the first character of their messages or in the last one, and the
figures of an unreadable version are read from the end, one numeral after the
other, each back to the fixed words before it.

The main theorem puts this together: two failures with the same message are
the same failure, whatever their names and figures are.
-/

namespace SoliditySyntax

open SoliditySyntax.Text

/-! ## The ends of a text -/

/-- The character that a text begins with, and the one that it ends with unless this is a digit. -/
def Text.ends (text : String) : Option Char × Option Char :=
  (text.toList.head?, text.toList.getLast?.filter (!·.isDigit))

theorem Text.ends_append
    {before after : String}
    (first last : Char)
    (begins : before.toList.head? = some first)
    (stops : after.toList.getLast? = some last) :
    ends (before ++ after) = (some first, (some last).filter (!·.isDigit)) := by
  simp [ends, List.head?_append, List.getLast?_append, begins, stops]

/-! ## Rejections -/

namespace Rejection

/-- The wording of a rejection, with the range of the engine spelled out. -/
theorem message_eq (rejection : Rejection) :
    rejection.message =
      "Incompatible language version " ++ toString rejection.version ++
        ". Expected minimum 13, maximum 15" := by
  have closing :
      ". Expected minimum " ++ (toString Engine.oldestReadable ++
          (", maximum " ++ toString Engine.newestReadable)) =
        ". Expected minimum 13, maximum 15" := by
    decide
  show "Incompatible language version " ++ toString rejection.version ++
      ". Expected minimum " ++ toString Engine.oldestReadable ++
        ", maximum " ++ toString Engine.newestReadable = _
  rw [← closing]
  simp only [String.append_assoc]

theorem message_injective : Function.Injective message := by
  rintro ⟨first⟩ ⟨second⟩ same
  have stops : NoLeadingDigit ". Expected minimum 13, maximum 15" := by
    simp [NoLeadingDigit]
  rw [message_eq, message_eq] at same
  simp only [String.append_assoc, String.append_right_inj] at same
  obtain rfl : first = second := (toString_append_inj stops stops same).1
  rfl

end Rejection

/-! ## Causes -/

namespace Failure

/-- Two failures of different causes have messages with different ends. -/
theorem ends_message (failure : Failure) :
    ends failure.message =
      match failure with
      | .noHandle _ => (some 'E', some 'r')
      | .noNodeKinds _ => (some 'E', some 's')
      | .unreadableVersion .. => (some 'E', none)
      | .rejected _ => (some 'p', none)
      | .noTree => (some 'p', some 'e') := by
  cases failure with
  | noHandle grammar =>
      show ends ("Error loading " ++ grammar ++ " grammar") = _
      exact ends_append 'E' 'r' (by simp) (by decide)
  | noNodeKinds grammar =>
      show ends ("Error loading " ++ grammar ++ " grammar: no node kinds") = _
      exact ends_append 'E' 's' (by simp) (by decide)
  | unreadableVersion grammar version oldest newest =>
      rcases exists_last_digit newest with ⟨digit, isDigit, last⟩
      show ends
          ("Error loading " ++ grammar ++ " grammar: ABI version " ++ toString version ++
            " outside " ++ toString oldest ++ "..=" ++ toString newest) = _
      rw [ends_append 'E' digit (by simp) last]
      simp [isDigit]
  | rejected rejection =>
      show ends ("parser rejected language: " ++ rejection.message) = _
      rw [rejection.message_eq, ← String.append_assoc]
      exact ends_append 'p' '5' (by simp) (by decide)
  | noTree =>
      decide

/-- The three figures of an unreadable version stand behind fixed words, the last one at the end. -/
theorem unreadableVersion_eq_of_message_eq
    {firstGrammar secondGrammar : String}
    {firstVersion firstOldest firstNewest secondVersion secondOldest secondNewest : Nat}
    (same :
      (unreadableVersion firstGrammar firstVersion firstOldest firstNewest).message =
        (unreadableVersion secondGrammar secondVersion secondOldest secondNewest).message) :
    unreadableVersion firstGrammar firstVersion firstOldest firstNewest =
      unreadableVersion secondGrammar secondVersion secondOldest secondNewest := by
  rcases append_toString_inj '=' (by decide) (by decide) same with
    ⟨beforeNewest, rfl⟩
  rcases append_toString_inj ' ' (by decide) (by decide) beforeNewest with
    ⟨beforeOldest, rfl⟩
  rcases append_toString_inj ' ' (by decide) (by decide) beforeOldest with
    ⟨beforeVersion, rfl⟩
  obtain rfl : firstGrammar = secondGrammar :=
    (String.append_right_inj _).mp beforeVersion
  rfl

/-- Different causes differ at the ends of their messages, so only like ones are left to compare. -/
theorem message_injective : Function.Injective message := by
  intro first second same
  have sameEnds := congrArg ends same
  rw [ends_message, ends_message] at sameEnds
  cases first with
  | noHandle grammar =>
      cases second with
      | noHandle other =>
          obtain rfl : grammar = other :=
            (String.append_right_inj _).mp ((String.append_left_inj _).mp same)
          rfl
      | _ => simp at sameEnds
  | noNodeKinds grammar =>
      cases second with
      | noNodeKinds other =>
          obtain rfl : grammar = other :=
            (String.append_right_inj _).mp ((String.append_left_inj _).mp same)
          rfl
      | _ => simp at sameEnds
  | unreadableVersion grammar version oldest newest =>
      cases second with
      | unreadableVersion => exact unreadableVersion_eq_of_message_eq same
      | _ => simp at sameEnds
  | rejected rejection =>
      cases second with
      | rejected other =>
          obtain rfl : rejection = other :=
            Rejection.message_injective ((String.append_right_inj _).mp same)
          rfl
      | _ => simp at sameEnds
  | noTree =>
      cases second with
      | noTree => rfl
      | _ => simp at sameEnds

/--
Different failures never have the same message, however their grammars are
named and whatever their figures are.  A rejection is worded as the engine
words it.
-/
theorem message_unambiguous :
    (∀ first second : Failure, first.message = second.message ↔ first = second) ∧
      ∀ rejection : Rejection,
        (rejected rejection).message =
          "parser rejected language: Incompatible language version " ++
            toString rejection.version ++ ". Expected minimum 13, maximum 15" := by
  constructor
  · intro first second
    exact message_injective.eq_iff
  · intro rejection
    have opening :
        "parser rejected language: Incompatible language version " =
          "parser rejected language: " ++ "Incompatible language version " := by
      decide
    show "parser rejected language: " ++ rejection.message = _
    rw [rejection.message_eq, opening]
    simp only [String.append_assoc]

/-- A name that holds the wording of another failure still has its own words behind it. -/
example :
    (noHandle "A grammar: ABI version 3 outside 1..=2").message =
      "Error loading A grammar: ABI version 3 outside 1..=2 grammar" := by
  decide

end Failure

end SoliditySyntax
