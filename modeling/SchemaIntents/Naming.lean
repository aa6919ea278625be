import SchemaIntents.Naming.Plural
import SchemaIntents.Naming.Words

/-!
Names that are made from other names: tables from entities, enumerations from fields. And names that
SQL keeps for itself.
-/
namespace SchemaIntents.Naming

/-- How table names are spelled. -/
inductive Convention where
  | snake
  | camel
  | pascal
  deriving DecidableEq, Repr

namespace Convention

def name : Convention → String
  | snake => "snake_case"
  | camel => "camelCase"
  | pascal => "PascalCase"

def ofName? (s : String) : Option Convention :=
  [snake, camel, pascal].find? fun c => c.name == s

/-- A name in the spelling. -/
def apply : Convention → String → String
  | snake => Naming.snake
  | camel => Naming.camel
  | pascal => Naming.pascal

end Convention

/-- The table of an entity: its plural in the spelling. -/
def table (convention : Convention) (entity : String) : String :=
  convention.apply (plural entity)

/-- What is said of a spelling that is none. -/
def unknownConvention (name : String) : String :=
  "Unknown table naming convention: " ++ name

/-- The enumeration of a field: `Post` and `status` give `PostStatusEnum`. -/
def enumeration (owner field : String) : String :=
  pascal owner ++ pascal field ++ "Enum"

/-- The keywords of SQL. -/
def keywords : List String := [
  "select", "from", "where", "insert", "update", "delete", "table", "column", "index", "key",
  "primary", "foreign", "constraint", "default", "null", "not", "and", "or", "order", "group", "by",
  "having", "join", "inner", "outer", "left", "right", "cross", "union", "distinct", "as", "on",
  "using", "limit", "offset"]

/-- Whether a name is a keyword of SQL, in any case. -/
def isReserved (name : String) : Bool :=
  keywords.contains (Text.lower name)

end SchemaIntents.Naming
