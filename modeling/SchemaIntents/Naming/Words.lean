import SchemaIntents.Text.Casing

/-!
The words of a name, and the spellings that join them: `snake_case`, `PascalCase` and `camelCase`.
Only ASCII letters mark where a word starts.
-/
namespace SchemaIntents.Naming

open Text

/-- A character that stands between words and belongs to none. -/
def isSeparator (c : Char) : Bool :=
  c == '_' || c == '-' || isBlank c

/-- The words between separators; `word` is the one under way, in reverse. -/
def wordsFrom (word : List Char) : List Char → List (List Char)
  | [] => if word.isEmpty then [] else [word.reverse]
  | c :: rest =>
    if isSeparator c then
      if word.isEmpty then wordsFrom [] rest else word.reverse :: wordsFrom [] rest
    else wordsFrom (c :: word) rest

/-- The words of a name that separators tell apart. -/
def words (cs : List Char) : List (List Char) :=
  wordsFrom [] cs

/-- A word with its first letter as a capital. -/
def capitalize : List Char → List Char
  | [] => []
  | c :: cs => upperChar c ++ cs

/-- The words joined, each with a capital. -/
def pascalChars (cs : List Char) : List Char :=
  (words cs).flatMap capitalize

/-- `due_date` becomes `DueDate`. -/
def pascal (name : String) : String :=
  String.ofList (pascalChars name.toList)

/-- `due_date` becomes `dueDate`. -/
def camel (name : String) : String :=
  match pascalChars name.toList with
  | [] => ""
  | c :: cs => String.ofList (lowerChar c ++ cs)

/-- A small ASCII letter or a digit. -/
def isSmall (c : Char) : Bool :=
  c.isLower || c.isDigit

/-- Puts an underscore between a small letter or digit and a capital. -/
def breakAtCapital : List Char → List Char
  | a :: b :: rest =>
    if isSmall a && b.isUpper then a :: '_' :: breakAtCapital (b :: rest)
    else a :: breakAtCapital (b :: rest)
  | cs => cs

/-- Puts an underscore before the last of several capitals if a small letter follows it. -/
def breakAfterAcronym : List Char → List Char
  | a :: b :: c :: rest =>
    if a.isUpper && b.isUpper && c.isLower then a :: '_' :: breakAfterAcronym (b :: c :: rest)
    else a :: breakAfterAcronym (b :: c :: rest)
  | cs => cs

/-- A hyphen or a blank. -/
def isGap (c : Char) : Bool :=
  c == '-' || isBlank c

/-- Puts one underscore in the place of hyphens and blanks that stand together; `inGap` tells
whether the character before was one of them. -/
def closeGaps (inGap : Bool) : List Char → List Char
  | [] => []
  | c :: rest =>
    if isGap c then
      if inGap then closeGaps true rest else '_' :: closeGaps true rest
    else c :: closeGaps false rest

/-- The name with an underscore wherever a word starts inside it. -/
def snakeBreaks (cs : List Char) : List Char :=
  closeGaps false (breakAfterAcronym (breakAtCapital cs))

/-- `OrderItem` becomes `order_item`. -/
def snake (name : String) : String :=
  lower (String.ofList (snakeBreaks name.toList))

end SchemaIntents.Naming
