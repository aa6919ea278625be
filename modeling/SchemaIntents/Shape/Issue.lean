import SchemaIntents.Value.Display

/-!
What can be wrong with a value, and where: an issue is a cause at a location, and each cause has a
code and a text.
-/
namespace SchemaIntents

/-- One step into a value: the key of an entry or the position of an item. -/
inductive Step where
  | key (name : String)
  | index (position : Int)
  deriving DecidableEq, Repr

/-- The name or the number of a step, without signs around it. -/
def Step.bare : Step → String
  | .key name => name
  | .index position => toString position

/-- The steps from a whole value to one of its parts. -/
abbrev Location := List Step

/-- Texts that are restricted by their form. -/
inductive Pattern where
  /-- Three numbers without leading zeros, such as `0.1.0`. -/
  | version
  /-- A moment in UTC, to the second or the millisecond. -/
  | utcMoment
  /-- A path that starts at the root. -/
  | rooted
  /-- A mail address: one at-sign, a point after it, nothing blank. -/
  | email
  deriving DecidableEq, Repr

/-- The regular expression that stands for a pattern in messages and in the exported schema. -/
def Pattern.text : Pattern → String
  | .version => "^(0|[1-9]\\d*)\\.(0|[1-9]\\d*)\\.(0|[1-9]\\d*)$"
  | .utcMoment => "^\\d\x7b4\x7d-\\d\x7b2\x7d-\\d\x7b2\x7dT\\d\x7b2\x7d:\\d\x7b2\x7d:\\d\x7b2\x7d" ++
      "(\\.\\d\x7b3\x7d)?Z$"
  | .rooted => "^/"
  | .email => "^[^@\\s]+@[^@\\s]+\\.[^@\\s]+$"

/-- Why a value does not fit a shape. -/
inductive Cause where
  | missing
  | extra
  | nonTextKey
  | notModel (title : String)
  | notMapping
  | notList
  | tooFewItems (least actual : Nat)
  | notText
  | undecodableText
  | tooShort (least : Nat)
  | tooLong (most : Nat)
  | mismatch (pattern : Pattern)
  | notFlag
  | unreadableFlag
  | notWhole
  | unreadableWhole
  | fractionalWhole
  | oversizedWhole
  | notReal
  | unreadableReal
  | infinite
  | notAbove (bound : Int)
  | below (bound : Int)
  | beyond (bound : Int)
  | notOneOf (words : List String)
  | notTagged
  | noTag (tag : String)
  | unknownTag (tag found : String) (expected : List String)
  | notPath
  | tooDeep
  | invalid (text : String)
  deriving DecidableEq, Repr

namespace Cause

/-- The code of a cause. -/
def code : Cause → String
  | missing => "missing"
  | extra => "extra_forbidden"
  | nonTextKey => "invalid_key"
  | notModel _ => "model_type"
  | notMapping => "dict_type"
  | notList => "list_type"
  | tooFewItems _ _ => "too_short"
  | notText => "string_type"
  | undecodableText => "string_unicode"
  | tooShort _ => "string_too_short"
  | tooLong _ => "string_too_long"
  | mismatch _ => "string_pattern_mismatch"
  | notFlag => "bool_type"
  | unreadableFlag => "bool_parsing"
  | notWhole => "int_type"
  | unreadableWhole => "int_parsing"
  | fractionalWhole => "int_from_float"
  | oversizedWhole => "int_parsing_size"
  | notReal => "float_type"
  | unreadableReal => "float_parsing"
  | infinite => "finite_number"
  | notAbove _ => "greater_than"
  | below _ => "greater_than_equal"
  | beyond _ => "less_than_equal"
  | notOneOf _ => "literal_error"
  | notTagged => "model_attributes_type"
  | noTag _ => "union_tag_not_found"
  | unknownTag _ _ _ => "union_tag_invalid"
  | notPath => "path_type"
  | tooDeep => "recursion_depth_exceeded"
  | invalid _ => "value_error"

/-- A count with its noun, which has an `s` unless the count is one. -/
def counted (n : Nat) (noun : String) : String :=
  s!"{n} " ++ noun ++ if n = 1 then "" else "s"

/-- Words in quotes with commas between them and `or` before the last. -/
def alternatives : List String → String
  | [] => ""
  | [w] => "'" ++ w ++ "'"
  | [v, w] => "'" ++ v ++ "' or '" ++ w ++ "'"
  | v :: rest => "'" ++ v ++ "', " ++ alternatives rest

/-- The text of a cause. -/
def message : Cause → String
  | missing => "Field required"
  | extra => "Extra inputs are not permitted"
  | nonTextKey => "Keys should be strings"
  | notModel title => "Input should be a valid dictionary or instance of " ++ title
  | notMapping => "Input should be a valid dictionary"
  | notList => "Input should be a valid list"
  | tooFewItems least actual =>
    "List should have at least " ++ counted least "item" ++ s!" after validation, not {actual}"
  | notText => "Input should be a valid string"
  | undecodableText =>
    "Input should be a valid string, unable to parse raw data as a unicode string"
  | tooShort least => "String should have at least " ++ counted least "character"
  | tooLong most => "String should have at most " ++ counted most "character"
  | mismatch p => "String should match pattern '" ++ p.text ++ "'"
  | notFlag => "Input should be a valid boolean"
  | unreadableFlag => "Input should be a valid boolean, unable to interpret input"
  | notWhole => "Input should be a valid integer"
  | unreadableWhole => "Input should be a valid integer, unable to parse string as an integer"
  | fractionalWhole => "Input should be a valid integer, got a number with a fractional part"
  | oversizedWhole => "Unable to parse input string as an integer, exceeded maximum size"
  | notReal => "Input should be a valid number"
  | unreadableReal => "Input should be a valid number, unable to parse string as a number"
  | infinite => "Input should be a finite number"
  | notAbove n => s!"Input should be greater than {n}"
  | below n => s!"Input should be greater than or equal to {n}"
  | beyond n => s!"Input should be less than or equal to {n}"
  | notOneOf words => "Input should be " ++ alternatives words
  | notTagged => "Input should be a valid dictionary or object to extract fields from"
  | noTag tag => "Unable to extract tag using discriminator '" ++ tag ++ "'"
  | unknownTag tag found expected =>
    "Input tag '" ++ found ++ "' found using '" ++ tag ++
      "' does not match any of the expected tags: " ++
      Value.commaSeparated (expected.map fun t => "'" ++ t ++ "'")
  | notPath => "Input is not a valid path for <class 'pathlib.Path'>"
  | tooDeep => "Recursion error - maximum validation depth exceeded"
  | invalid text => "Value error, " ++ text

end Cause

/-- A cause at a location. -/
structure Issue where
  cause : Cause
  location : Location
  deriving DecidableEq, Repr

namespace Issue

/-- The steps of the location between points. -/
def place (i : Issue) : String :=
  String.intercalate "." (i.location.map Step.bare)

/-- The location and what is wrong there. -/
def text (i : Issue) : String :=
  i.place ++ ": " ++ i.cause.message

/-- The issue seen from one step further out. -/
def under (step : Step) (i : Issue) : Issue :=
  { i with location := step :: i.location }

end Issue
end SchemaIntents
