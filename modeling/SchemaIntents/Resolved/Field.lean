import SchemaIntents.Diagnostic
import SchemaIntents.Resolved.Relation

/-!
Fields of entities and endpoints as they are resolved: type, default, generated value and
validations, and the diagnostics that come up on the way.
-/
namespace SchemaIntents.Resolved

open Intent (AuthoredField)

/-- What a field is filled with. -/
inductive Default where
  | literal (v : Value)
  | now
  | uuid
  | autoIncrement

/-- The default that a value of an intent stands for. A few words, in any case, stand for values
that are made later; other scalars stand for themselves, and nothing else is a default. -/
def Default.ofValue? : Value → Option Default
  | .str s =>
    let token := Text.normalize s
    if token = "now" ∨ token = "current_timestamp" then some .now
    else if token = "autoincrement" then some .autoIncrement
    else if token = "uuid" ∨ token = "uuidv4" ∨ token = "uuid()" then some .uuid
    else some (.literal (.str s))
  | .bool b => some (.literal (.bool b))
  | .int n => some (.literal (.int n))
  | .float x => some (.literal (.float x))
  | _ => none

def Default.toValue : Default → Value
  | literal v => .obj [("kind", .str "Literal"), ("value", v)]
  | now => .obj [("kind", .str "Now")]
  | uuid => .obj [("kind", .str "UUIDv4")]
  | autoIncrement => .obj [("kind", .str "AutoIncrement")]

/-- How a value is made that nobody gives. -/
inductive Strategy where
  | autoIncrement
  | uuid
  | timestamp
  deriving DecidableEq, Repr

def Strategy.toValue (s : Strategy) : Value :=
  let name := match s with
    | autoIncrement => "AutoIncrement"
    | uuid => "UUID"
    | timestamp => "Timestamp"
  .obj [("strategy", .str name)]

/-- A restriction on the values of a field. -/
inductive Validation where
  | maxLength (n : Int)
  | minLength (n : Int)
  | pattern (regex : String)
  | min (x : Binary64)
  | max (x : Binary64)

def Validation.toValue : Validation → Value
  | maxLength n => .obj [("kind", .str "MaxLength"), ("max", .int n)]
  | minLength n => .obj [("kind", .str "MinLength"), ("min", .int n)]
  | pattern regex => .obj [("kind", .str "Pattern"), ("regex", .str regex)]
  | min x => .obj [("kind", .str "Min"), ("min", .float x)]
  | max x => .obj [("kind", .str "Max"), ("max", .float x)]

/-- The restrictions that an authored field names. -/
def Validation.ofField (f : AuthoredField) : List Validation :=
  (f.maxLength.map maxLength).toList ++ (f.minLength.map minLength).toList ++
    (f.pattern.map pattern).toList ++ (f.min.map min).toList ++ (f.max.map max).toList

/-- A resolved field. -/
structure Field where
  name : String
  type : FieldType
  nullable : Bool
  unique : Bool := false
  primary : Bool := false
  default : Option Default := none
  generated : Option Strategy := none
  validations : List Validation := []
  api : Option Intent.Exposure := none
  description : Option String := none
  tags : List String := []

def exposureValue (e : Intent.Exposure) : Value :=
  .ofPresent [("include", some (.bool e.shown)), ("endpoints", e.endpoints.map .texts)]

/-- A truth value that is written only if it is true. -/
def whenTrue (b : Bool) : Option Value :=
  if b then some (.bool true) else none

def Field.toValue (f : Field) : Value :=
  .ofPresent [("name", some (.str f.name)), ("type", some f.type.toValue),
    ("nullable", some (.bool f.nullable)), ("unique", whenTrue f.unique),
    ("isPrimary", whenTrue f.primary), ("default", f.default.map (·.toValue)),
    ("generated", f.generated.map (·.toValue)),
    ("validations", Value.someList (f.validations.map (·.toValue))),
    ("api", f.api.map exposureValue), ("description", f.description.map .str),
    ("tags", Value.someList (f.tags.map .str))]

/-- The type that the word of an authored field stands for. -/
def ownType (f : AuthoredField) (owner : String) : Except TypeFault FieldType :=
  FieldType.ofWord (some f.type) f.enumValues f.arrayType
    (some (f.enumName.getD (Naming.enumeration owner f.name)))

/-- Whether the word of a field stands for a reference itself. -/
def namesReference (f : AuthoredField) : Bool :=
  referenceWords.contains (Text.normalize f.type)

/-- The type of an authored field. A relation makes it a reference; its own word, the type of the
foreign key, must still be known unless it stands for a reference itself. -/
def typeOf (f : AuthoredField) (owner : String) : Except TypeFault FieldType := do
  match f.relation with
  | none => ownType f owner
  | some r =>
    if !namesReference f then discard (ownType f owner)
    return .reference (← Reference.ofRelation r f.name f.optional)

/-- The default of an authored field: its own, else what its attributes ask for. -/
def defaultOf (f : AuthoredField) : Option Default :=
  (Default.ofValue? f.default).or <|
    if f.has ["default_now"] then some .now
    else if f.has ["auto_increment"] then some .autoIncrement
    else none

/-- The resolved field once its type is known. -/
def Field.ofAuthored (f : AuthoredField) (type : FieldType) : Field where
  name := f.name
  type := type
  nullable := f.optional || f.has ["nullable", "optional"]
  unique := f.unique == some true || f.has ["unique"]
  default := defaultOf f
  generated := if f.has ["updated_at"] then some .timestamp else none
  validations := Validation.ofField f
  api := f.api
  description := f.description
  tags := f.tags

/-- The warning about a name that SQL keeps for itself. -/
def reservedWarning (label name path : String) : List Diagnostic :=
  if Naming.isReserved name then
    [⟨"IR011", .warning, label ++ " '" ++ name ++ "' is a reserved SQL keyword", path⟩]
  else []

/-- The error about a type that cannot be resolved. -/
def typeError (f : AuthoredField) (fault : TypeFault) (path : String) : Diagnostic :=
  ⟨"IR021", .error, "Invalid field type '" ++ f.type ++ "' for field '" ++ f.name ++ "': " ++
    fault.message, path ++ ".type"⟩

/-- Why the type of an authored field cannot even be looked for: its relation is misused, and the
word for the foreign key does not stand in the way before. Or the error about the type cannot be
made. -/
def typeMisuse? (f : AuthoredField) (owner : String) : Option Misuse :=
  let relation := f.relation.bind fun r =>
    if namesReference f || (ownType f owner).isOk then relationMisuse? r else none
  relation.or <| match typeOf f owner with
    | .ok _ => none
    | .error fault => (typeError f fault "").misuse?

/-- What is checked while fields are resolved: names that occur again, and names that SQL keeps. -/
structure FieldChecks where
  duplicates : Bool
  reserved : Bool

/-- Resolves the field at a path. -/
def resolveField (checks : FieldChecks) (owner path : String) (f : AuthoredField) :
    List Diagnostic × Option Field :=
  let warning := if checks.reserved then reservedWarning "Field name" f.name
    (path ++ ".name") else []
  match typeOf f owner with
  | .ok type => (warning, some (Field.ofAuthored f type))
  | .error fault => (warning ++ [typeError f fault path], none)

/-- The error about a name that occurred before. -/
def duplicateError (name path : String) : Diagnostic :=
  ⟨"IR020", .error, "Duplicate field name '" ++ name ++ "'", path ++ ".name"⟩

/-- Resolves fields that stand in a list from a position on. `seen` holds the names before it. -/
def resolveFrom (checks : FieldChecks) (owner root : String) (seen : List String) (position : Nat) :
    List AuthoredField → List Diagnostic × List Field
  | [] => ([], [])
  | f :: rest =>
    let path := root ++ s!"[{position}]"
    if checks.duplicates && seen.contains f.name then
      let (ds, fs) := resolveFrom checks owner root seen (position + 1) rest
      (duplicateError f.name path :: ds, fs)
    else
      let (here, field) := resolveField checks owner path f
      let (ds, fs) := resolveFrom checks owner root (f.name :: seen) (position + 1) rest
      (here ++ ds, field.toList ++ fs)

/-- Resolves the fields of a list; fields with a name or type that is refused are left out. -/
def resolveFields (checks : FieldChecks) (owner root : String) (fs : List AuthoredField) :
    List Diagnostic × List Field :=
  resolveFrom checks owner root [] 0 fs

/-- The first misuse among fields that stand in a list, of those that are resolved at all. -/
def misuseFrom? (checks : FieldChecks) (owner : String) (seen : List String) :
    List AuthoredField → Option Misuse
  | [] => none
  | f :: rest =>
    if checks.duplicates && seen.contains f.name then misuseFrom? checks owner seen rest
    else (typeMisuse? f owner).or (misuseFrom? checks owner (f.name :: seen) rest)

/-- The first misuse among the fields of a list. -/
def fieldsMisuse? (checks : FieldChecks) (owner : String) (fs : List AuthoredField) :
    Option Misuse :=
  misuseFrom? checks owner [] fs

end SchemaIntents.Resolved
