import SchemaIntents.Text.Casing

/-!
English plurals of names.
-/
namespace SchemaIntents.Naming

open Text

/-- Nouns whose plural follows no rule. -/
def irregularPlurals : List (String × String) := [
  ("person", "people"), ("child", "children"), ("man", "men"), ("woman", "women"),
  ("tooth", "teeth"), ("foot", "feet"), ("mouse", "mice"), ("goose", "geese")]

/-- A vowel, small or capital. -/
def isVowel (c : Char) : Bool :=
  "aeiou".toList.contains c.toLower

/-- Whether a word in reverse ends in a consonant and `y`. -/
def endsInConsonantY : List Char → Bool
  | 'y' :: c :: _ => !isVowel c
  | _ => false

/-- Whether a word in reverse ends in a hissing sound; a line break after it does not count. -/
def endsInHiss (reversed : List Char) : Bool :=
  let hiss : List Char → Bool
    | 's' :: _ => true
    | 'x' :: _ => true
    | 'z' :: _ => true
    | 'h' :: 'c' :: _ => true
    | 'h' :: 's' :: _ => true
    | _ => false
  hiss reversed || match reversed with
    | '\n' :: rest => hiss rest
    | _ => false

/-- The plural of a word by its ending. -/
def regularPlural (word : List Char) : List Char :=
  if endsInConsonantY word.reverse then word.dropLast ++ "ies".toList
  else if endsInHiss word.reverse then word ++ "es".toList
  else word ++ ['s']

/-- The plural of a word. A capital at its start is kept, also by an irregular plural. -/
def plural (word : String) : String :=
  match irregularPlurals.lookup (lower word) with
  | some p =>
    if (word.toList.head?.map Char.isUpper).getD false then
      match p.toList with
      | c :: cs => String.ofList (c.toUpper :: cs)
      | [] => p
    else p
  | none => String.ofList (regularPlural word.toList)

end SchemaIntents.Naming
