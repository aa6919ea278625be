import SchemaIntents.Intent.Data
import SchemaIntents.Resolved.Field

/-!
Entities as they are resolved: which fields are primary keys, which constraints the table has, and
what refers to fields that are not there.
-/
namespace SchemaIntents.Resolved

open Intent (AuthoredField)

/-- Whether an author writes a default that counts up. The word is taken as it stands. -/
def countsUp (f : AuthoredField) : Bool :=
  match f.default with
  | .str s => s = "autoincrement"
  | _ => false

/-- Whether a field is a primary key: by its name, its default or an attribute. -/
def isPrimary (f : AuthoredField) : Bool :=
  f.name = "id" || countsUp f || f.has ["primary", "id"]

/-- The words for types whose primary keys count up by themselves. -/
def countingWords : List String :=
  ["integer", "int", "bigint"]

/-- A field as a primary key: never empty, and with a value of its own if its type has a way to make
one. -/
def Field.asPrimary (f : AuthoredField) (r : Field) : Field :=
  let token := Text.normalize f.type
  let r := { r with primary := true, nullable := false }
  if countsUp f || countingWords.contains token then
    { r with generated := some .autoIncrement, default := none }
  else if token = "uuid" && r.default.isNone then { r with generated := some .uuid }
  else r

/-- The first authored field of a name, with its position. -/
def authoredOf? (authored : List AuthoredField) (name : String) : Option (AuthoredField × Nat) :=
  authored.zipIdx.find? fun f => f.1.name == name

/-- A resolved field, marked if it is a primary key. -/
def markPrimary (authored : List AuthoredField) (r : Field) : Field :=
  match authoredOf? authored r.name with
  | some (f, _) => if isPrimary f then r.asPrimary f else r
  | none => r

/-- The note about the first primary key that was found. -/
def primaryNote (authored : List AuthoredField) (fields : List Field) : List Diagnostic :=
  match fields.find? (·.primary) with
  | none => []
  | some r =>
    let position := ((authoredOf? authored r.name).map (·.2)).getD 0
    [⟨"IR001", .info, "Inferred primary key '" ++ r.name ++ "'", s!"$.fields[{position}]"⟩]

/-- The primary keys, or the error that there is none. -/
def primaryError (keys : List String) : List Diagnostic :=
  if keys.isEmpty then
    [⟨"IR022", .error, "No primary key found or could be inferred", "$.fields"⟩]
  else []

/-- One field alone or several together as a primary key. -/
def primaryKey (keys : List String) : Value :=
  match keys with
  | [] => .obj [("kind", .str "Single"), ("field", .str "id")]
  | [key] => .obj [("kind", .str "Single"), ("field", .str key)]
  | keys => .obj [("kind", .str "Composite"), ("fields", .texts keys)]

/-- A constraint of a table. -/
inductive Constraint where
  | unique (fields : List String)
  | index (fields : List String) (distinct : Option Bool) (name type : Option String)
  deriving DecidableEq, Repr

namespace Constraint

def toValue : Constraint → Value
  | unique fields => .obj [("kind", .str "Unique"), ("fields", .texts fields)]
  | index fields distinct name type =>
    .ofPresent [("kind", some (.str "Index")), ("fields", some (.texts fields)),
      ("unique", distinct.map .bool), ("name", name.map .str), ("type", type.map .str)]

/-- An index over one field that nobody described. -/
def plainIndex (field : String) : Constraint :=
  index [field] none none none

/-- Whether a constraint is an index over just one field. -/
def indexes (field : String) : Constraint → Bool
  | index fields _ _ _ => fields = [field]
  | unique _ => false

end Constraint

/-- The constraints followed by an index over each of the fields that has none of its own yet. -/
def withIndexes (constraints : List Constraint) : List String → List Constraint
  | [] => constraints
  | field :: rest =>
    if constraints.any (Constraint.indexes field) then withIndexes constraints rest
    else withIndexes (constraints ++ [.plainIndex field]) rest

/-- The constraints that an author asks for: groups that are unique, indexes, and indexes over
fields with an attribute. -/
def authoredConstraints (i : Intent.AddEntity) : List Constraint :=
  withIndexes
    (i.unique.map .unique ++
      i.indexes.map fun x => .index x.fields (some x.unique) x.name x.type)
    ((i.fields.filter fun f => f.has ["indexed"]).map (·.name))

/-- The note about an index that nobody asked for. -/
def indexNote (field : String) : Diagnostic :=
  ⟨"IR003", .info, "Auto-added index for foreign key '" ++ field ++ "'", "$.fields"⟩

/-- The constraints followed by an index over each of the fields that has none of its own yet, and a
note about each index that was added. -/
def withNotedIndexes (constraints : List Constraint) :
    List String → List Diagnostic × List Constraint
  | [] => ([], constraints)
  | field :: rest =>
    if constraints.any (Constraint.indexes field) then withNotedIndexes constraints rest
    else
      let (notes, indexed) := withNotedIndexes (constraints ++ [.plainIndex field]) rest
      (indexNote field :: notes, indexed)

/-- The names of the references among fields. -/
def referenceNames (fields : List Field) : List String :=
  (fields.filter fun r => r.type.isReference).map (·.name)

/-- The constraints of an entity. Where indexes are added without being asked for, each reference
that has none gets one, and each is noted. -/
def constraints (autoIndex : Bool) (i : Intent.AddEntity) (fields : List Field) :
    List Diagnostic × List Constraint :=
  let authored := authoredConstraints i
  if autoIndex then withNotedIndexes authored (referenceNames fields) else ([], authored)

/-- The errors about names in a list that are no fields. -/
def unknownFields (known : List String) (path : String) (what : String → String)
    (names : List String) : List Diagnostic :=
  (names.filter fun n => !known.contains n).map fun n => ⟨"IR023", .error, what n, path⟩

/-- The error about the column of a tenant that is no field. -/
def tenantError (known : List String) (column : Option String) : List Diagnostic :=
  match column with
  | none => []
  | some c =>
    unknownFields known "$.tenant_column" (fun n => "Tenant column '" ++ n ++ "' is not a field")
      [c]

/-- The errors about generators of fields that are not there. -/
def seedErrors (known : List String) (seed : Option Intent.Seed) : List Diagnostic :=
  match seed with
  | none => []
  | some s => (s.generators.map (·.1)).flatMap fun name =>
      unknownFields known ("$.seed.generators." ++ name)
        (fun n => "Seed generator targets unknown field '" ++ n ++ "'") [name]

/-- The errors about all places that name fields which are not there. -/
def referenceErrors (i : Intent.AddEntity) : List Diagnostic :=
  let known := i.fields.map (·.name)
  (i.unique.zipIdx.flatMap fun g => unknownFields known s!"$.unique[{g.2}]"
      (fun n => "Unique constraint references unknown field '" ++ n ++ "'") g.1) ++
    (i.indexes.zipIdx.flatMap fun x => unknownFields known s!"$.indexes[{x.2}].fields"
      (fun n => "Index references unknown field '" ++ n ++ "'") x.1.fields) ++
    tenantError known i.tenantColumn ++ seedErrors known i.seed

/-- The rows that an entity starts with, as they are written. -/
def seedValue (s : Intent.Seed) : Value :=
  .ofPresent [("mode", some (.str s.mode)), ("environments", some (.texts s.environments)),
    ("count", s.count.map .int),
    ("generatorByField", if s.generators.isEmpty then none else some (.obj s.generators)),
    ("fixturesPath", s.fixturesPath.map .str)]

end SchemaIntents.Resolved
