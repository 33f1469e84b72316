import SoliditySyntax.Text.Unprintable

/-!
# Texts for inspection

Values that are inspected show their structure: a text stands between double
quotes, a list in brackets, and a record is its title with its named fields in
braces.  A record has a compact form on one line and a spread form with one
field on each line.

Inside a quoted text, the double quote, the backslash, the null character, the
tab and the two line ends are written with a backslash and one more character;
a character without a visible form is written by its code point, in lower-case
hexadecimal digits between braces; every other character stands for itself.
Which characters have no visible form is a table of its own, and quoting is
given for any choice of them.
-/

namespace SoliditySyntax.Text

/-! ## Quoted texts -/

/-- How a character is written by its code point. -/
def codePointEscape (character : Char) : List Char :=
  '\\' :: 'u' :: '\x7b' :: (Nat.toDigits 16 character.toNat ++ ['\x7d'])

/--
How a character is written inside a quoted text, when the characters without
a visible form are the hidden ones.
-/
def escapeBy (hidden : Char → Bool) (character : Char) : List Char :=
  match character with
  | '"' => ['\\', '"']
  | '\\' => ['\\', '\\']
  | '\x00' => ['\\', '0']
  | '\t' => ['\\', 't']
  | '\n' => ['\\', 'n']
  | '\r' => ['\\', 'r']
  | other => if hidden other then codePointEscape other else [other]

/-- The characters of a text as they are written between its quotes. -/
def encodeBy (hidden : Char → Bool) (characters : List Char) : List Char :=
  characters.flatMap (escapeBy hidden)

@[simp]
theorem encodeBy_nil (hidden : Char → Bool) : encodeBy hidden [] = [] :=
  rfl

@[simp]
theorem encodeBy_cons (hidden : Char → Bool) (character : Char) (rest : List Char) :
    encodeBy hidden (character :: rest) = escapeBy hidden character ++ encodeBy hidden rest :=
  rfl

/-- The quoted form of a text, when the characters without a visible form are the hidden ones. -/
def quoteBy (hidden : Char → Bool) (text : String) : String :=
  String.ofList ('"' :: (encodeBy hidden text.toList ++ ['"']))

/-- The quoted form of a text. -/
def quote (text : String) : String :=
  quoteBy isUnprintable text

/-! ## Lists and records -/

/-- The items in order, with a comma and a space between neighbours. -/
def commaSeparated : List String → String
  | [] => ""
  | [item] => item
  | item :: next :: rest => item ++ ", " ++ commaSeparated (next :: rest)

/-- A list of values, given by their texts. -/
def bracketed (items : List String) : String :=
  "[" ++ commaSeparated items ++ "]"

/-- The name of a field and the text of its value, as one piece. -/
def fieldText (field : String × String) : String :=
  field.1 ++ ": " ++ field.2

/-- A record on one line, its fields given by their names and texts. -/
def record (title : String) (fields : List (String × String)) : String :=
  title ++ " \x7b " ++ commaSeparated (fields.map fieldText) ++ " \x7d"

/-- A record with each field on a line of its own, indented and followed by a comma. -/
def spreadRecord (title : String) (fields : List (String × String)) : String :=
  title ++ " \x7b\n" ++
    String.join (fields.map fun field => "    " ++ fieldText field ++ ",\n") ++ "\x7d"

end SoliditySyntax.Text
