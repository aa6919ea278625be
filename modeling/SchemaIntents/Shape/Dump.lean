import SchemaIntents.Shape
import SchemaIntents.Value.Json

/-!
Writing instances as plain values again: with the keys of the wire and without absent fields, with
all fields under their names, or with the given fields alone.
-/
namespace SchemaIntents

namespace Shape

variable {ν : Type}

/-- A value of a shape as JSON. A free value is turned into what JSON can say, and so are the values
of a free mapping, whose keys are mended. -/
def written (v : Value) : Shape ν → Value
  | any => v.toJson
  | mapping =>
    match v with
    | .obj entries => .obj (Value.mendKeys (Value.toJsonEntries entries))
    | v => v
  | optional inner => inner.written v
  | _ => v

/-- The first thing in a value of a shape that JSON cannot say. A free value is the first of those
that lie inside each other; a free mapping is none of them, and its values are. -/
def jsonFault? (v : Value) : Shape ν → Option JsonFault
  | any => v.faultIn? Value.depthLimit
  | mapping =>
    match v with
    | .obj entries => Value.faultInAll? Value.depthLimit (entries.map (·.2))
    | .loop _ => some .circular
    | _ => none
  | optional inner => inner.jsonFault? v
  | _ => none

/-- The shape of the items of a list or the entries of a table. -/
def part : Shape ν → Shape ν
  | list _ item => item
  | table entry => entry
  | optional inner => inner.part
  | _ => any

end Shape

namespace Instance

variable {ν : Type} (schema : Schema ν)

/-- Written values at the keys that a function of the field gives, without those that are null. -/
def present (key : Field ν → String) : List (Field ν) → List Value → List (String × Value)
  | f :: fs, v :: vs =>
    match v with
    | .null => present key fs vs
    | v => (key f, v) :: present key fs vs
  | _, _ => []

/-- The written values of the fields that were given, without those that are null. -/
def presentGiven : List (Field ν) → List Bool → List Value → List (String × Value)
  | f :: fs, g :: gs, v :: vs =>
    match g, v with
    | true, .null => presentGiven fs gs vs
    | true, v => (f.wire, v) :: presentGiven fs gs vs
    | false, _ => presentGiven fs gs vs
  | _, _, _ => []

mutual

/-- The instance with the keys of the wire; fields that are null are left out. -/
def dump : Instance ν → Value
  | plain v => v
  | list items => .list (dumpAll items)
  | table entries => .obj (dumpEntries entries)
  | model name _ values => .obj (present (·.wire) (schema name).fields (dumpAll values))

def dumpAll : List (Instance ν) → List Value
  | [] => []
  | i :: is => i.dump :: dumpAll is

def dumpEntries : List (String × Instance ν) → List (String × Value)
  | [] => []
  | (k, i) :: rest => (k, i.dump) :: dumpEntries rest

end

mutual

/-- The instance as JSON, with the keys of the wire; fields that are null are left out. The keys of
a table are mended. -/
def wireAs (shape : Shape ν) : Instance ν → Value
  | plain v => shape.written v
  | list items => .list (wireAll shape.part items)
  | table entries => .obj (Value.mendKeys (wireEntries shape.part entries))
  | model name _ values => .obj (wireFields (schema name).fields values)

def wireAll (item : Shape ν) : List (Instance ν) → List Value
  | [] => []
  | i :: is => i.wireAs item :: wireAll item is

def wireEntries (entry : Shape ν) : List (String × Instance ν) → List (String × Value)
  | [] => []
  | (k, i) :: rest => (k, i.wireAs entry) :: wireEntries entry rest

def wireFields : List (Field ν) → List (Instance ν) → List (String × Value)
  | f :: fs, i :: is =>
    if i.isNull then wireFields fs is else (f.wire, i.wireAs f.shape) :: wireFields fs is
  | _, _ => []

end

/-- The instance as JSON, with the keys of the wire. -/
def wire (i : Instance ν) : Value :=
  i.wireAs schema .any

mutual

/-- The first thing in an instance of a shape that JSON cannot say. -/
def faultAs? (shape : Shape ν) : Instance ν → Option JsonFault
  | plain v => shape.jsonFault? v
  | list items => faultAll? shape.part items
  | table entries => faultEntries? shape.part entries
  | model name _ values => faultFields? (schema name).fields values

def faultAll? (item : Shape ν) : List (Instance ν) → Option JsonFault
  | [] => none
  | i :: is => (i.faultAs? item).or (faultAll? item is)

def faultEntries? (entry : Shape ν) : List (String × Instance ν) → Option JsonFault
  | [] => none
  | (_, i) :: rest => (i.faultAs? entry).or (faultEntries? entry rest)

def faultFields? : List (Field ν) → List (Instance ν) → Option JsonFault
  | f :: fs, i :: is => (i.faultAs? f.shape).or (faultFields? fs is)
  | _, _ => none

end

/-- The first thing in an instance that JSON cannot say. -/
def jsonFault? (i : Instance ν) : Option JsonFault :=
  i.faultAs? schema .any

/-- The instance as JSON with the keys of the wire, if JSON can say it. -/
def json (i : Instance ν) : Except JsonFault Value :=
  match i.jsonFault? schema with
  | some fault => .error fault
  | none => .ok (i.wire schema)

mutual

/-- All fields of the instance under their names, nulls included. -/
def dumpFull : Instance ν → Value
  | plain v => v
  | list items => .list (dumpFullAll items)
  | table entries => .obj (dumpFullEntries entries)
  | model name _ values =>
    .obj (((schema name).fields.map (·.name)).zip (dumpFullAll values))

def dumpFullAll : List (Instance ν) → List Value
  | [] => []
  | i :: is => i.dumpFull :: dumpFullAll is

def dumpFullEntries : List (String × Instance ν) → List (String × Value)
  | [] => []
  | (k, i) :: rest => (k, i.dumpFull) :: dumpFullEntries rest

end

mutual

/-- The fields that were given, with the keys of the wire; those that are null are left out. -/
def dumpGiven : Instance ν → Value
  | plain v => v
  | list items => .list (dumpGivenAll items)
  | table entries => .obj (dumpGivenEntries entries)
  | model name given values =>
    .obj (presentGiven (schema name).fields given (dumpGivenAll values))

def dumpGivenAll : List (Instance ν) → List Value
  | [] => []
  | i :: is => i.dumpGiven :: dumpGivenAll is

def dumpGivenEntries : List (String × Instance ν) → List (String × Value)
  | [] => []
  | (k, i) :: rest => (k, i.dumpGiven) :: dumpGivenEntries rest

end

end Instance
end SchemaIntents
