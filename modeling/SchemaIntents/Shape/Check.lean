import SchemaIntents.Shape
import SchemaIntents.Shape.Pattern
import SchemaIntents.Shape.Scalar
import SchemaIntents.Text.Path
import SchemaIntents.Value.LongNumber

/-!
Checking a value against a shape. All issues are found, not only the first: those of the fields in
the order of the model, then those of other keys in the order of the value. Checking goes down the
value, so that a value meets a shape with a checker for each of its parts already at hand. On the
way levels are counted, of which there are only so many.
-/
namespace SchemaIntents

/-- An instance, or the issues that stand in its way. -/
abbrev Checked (ν : Type) :=
  Except (List Issue) (Instance ν)

/-- A value that waits for the levels that are left and for its shape. -/
abbrev Checker (ν : Type) :=
  Nat → Shape ν → Checked ν

/-- The parts of a value, each with its checker. -/
inductive Parts (ν : Type) where
  | none
  | items (checkers : List (Checker ν))
  | entries (checkers : List (Value × Checker ν))

namespace Checked

variable {ν : Type}

/-- A single issue at the value itself. -/
def fail (cause : Cause) : Checked ν :=
  .error [⟨cause, []⟩]

/-- An instance made from what a reader finds. -/
def ofReader {α : Type} (make : α → Value) : Except Cause α → Checked ν
  | .ok a => .ok (.plain (make a))
  | .error c => fail c

/-- The outcome seen from one step further out. -/
def under (step : Step) : Checked ν → Checked ν
  | .ok i => .ok i
  | .error issues => .error (issues.map (·.under step))

/-- The issues of an outcome. -/
def issues : Checked ν → List Issue
  | .ok _ => []
  | .error is => is

/-- All instances, or the issues of all outcomes one after the other. -/
def collect : List (Checked ν) → Except (List Issue) (List (Instance ν))
  | [] => .ok []
  | c :: rest =>
    match c, collect rest with
    | .ok i, .ok is => .ok (i :: is)
    | .ok _, .error later => .error later
    | .error here, .ok _ => .error here
    | .error here, .error later => .error (here ++ later)

end Checked

namespace Shape

open Checked

variable {ν : Type} (schema : Schema ν)

/-- The levels that a value has in all. -/
def levelLimit : Nat :=
  255

/-- A value as an issue shows it, by the text that it has if none of its numbers is too long. -/
def shown (v : Value) (text : Value → String) : String :=
  if v.hasLongNumber then "<unprintable " ++ v.kindName ++ " object>" else text v

/-- The step to the entry of a key: a text is a name, its halves of pairs mended, a whole number of
machine size a position, and all else the name that displays it. -/
def stepTo : Value → Step
  | .str s => .key (Text.mended s)
  | .bool b => .index (if b then 1 else 0)
  | .int n =>
    if -Scalar.wordLimit ≤ n ∧ n < Scalar.wordLimit then .index n
    else .key (shown (.int n) Value.display)
  | k => .key k.display

/-- The first cause why a text does not fit its length and form. Where either counts, it must have
no halves of pairs. -/
def textFault? (least : Nat) (most : Option Nat) (pattern : Option Pattern) (s : String) :
    Option Cause :=
  let size := Text.size s.toList
  let mismatch := pattern.bind fun p => if p.accepts s then none else some (.mismatch p)
  if (least ≠ 0 || most.isSome || pattern.isSome) && Text.isTorn s then some .undecodableText
  else if size < least then some (.tooShort least)
  else match most with
    | some m => if m < size then some (.tooLong m) else mismatch
    | none => mismatch

/-- The cause why a text is none of some words. -/
def wordFault (words : List String) (s : String) : Cause :=
  if Text.isTorn s then .undecodableText else .notOneOf words

/-- The first bound that a whole number breaks. -/
def boundFault? (b : Bounds) (n : Int) : Option Cause :=
  let high := b.most.bind fun m => if m < n then some (Cause.beyond m) else none
  let low := b.least.bind fun l => if n < l then some (Cause.below l) else none
  let strict := b.above.bind fun a => if n ≤ a then some (Cause.notAbove a) else none
  high.or (low.or strict)

/-- The outcome of a reader, if no fault is found in what it read. -/
def readWith {α : Type} (make : α → Value) (fault? : α → Option Cause) :
    Except Cause α → Checked ν
  | .error c => fail c
  | .ok a => match fault? a with
    | some c => fail c
    | none => .ok (.plain (make a))

/-- Whether a value is one of the four scalar kinds. -/
def isScalar : Value → Bool
  | .bool _ => true
  | .int _ => true
  | .float _ => true
  | .str _ => true
  | _ => false

/-- The issues of a value that is none of the four scalar kinds, one for each. -/
def scalarIssues (v : Value) : List Issue :=
  let issue (kind : String) (c : Option Cause) : List Issue :=
    match c with
    | some c => [⟨c, [.key kind]⟩]
    | none => []
  let fault {α : Type} (r : Except Cause α) : Option Cause :=
    match r with
    | .ok _ => none
    | .error c => some c
  issue "bool" (fault (Scalar.readFlag v)) ++ issue "int" (fault (Scalar.readWhole v)) ++
    issue "float" (fault (Scalar.readReal v)) ++ issue "str" (fault (Scalar.readText v))

/-- Items checked against one shape, each at its position from `first` on. -/
def checkItems (levels : Nat) (item : Shape ν) (first : Nat) : List (Checker ν) → List (Checked ν)
  | [] => []
  | c :: rest => (c levels item).under (.index first) :: checkItems levels item (first + 1) rest

/-- A list of enough items that all fit. -/
def checkList (levels least : Nat) (item : Shape ν) (checkers : List (Checker ν)) : Checked ν :=
  match collect (checkItems levels item 0 checkers) with
  | .error issues => .error issues
  | .ok is => if is.length < least then fail (.tooFewItems least is.length) else .ok (.list is)

/-- The issue of a mapping's key that is no text and encodes none. -/
def keyIssues (key : Value) : List Issue :=
  match Scalar.readText key with
  | .ok _ => []
  | .error cause => [⟨cause, [stepTo key, .key "[key]"]⟩]

/-- The text of a mapping's key. -/
def keyText (key : Value) : String :=
  match Scalar.readText key with
  | .ok s => s
  | .error _ => key.plain

/-- A mapping with the texts of its keys; of two keys with one text the later value counts. -/
def withTextKeys : Value → Value
  | .map entries => .obj (entries.foldl (fun es e => Value.put (keyText e.1) e.2 es) [])
  | v => v

/-- Entries checked against one shape, each at its key. -/
def checkEntries (levels : Nat) (entry : Shape ν) : List (Value × Checker ν) → List (Checked ν)
  | [] => []
  | (k, c) :: rest =>
    let here := (c levels entry).under (stepTo k)
    (match keyIssues k with
      | [] => here
      | issues => .error (issues ++ here.issues)) :: checkEntries levels entry rest

/-- A mapping whose entries all fit. -/
def checkTable (levels : Nat) (entry : Shape ν) (checkers : List (Value × Checker ν)) : Checked ν :=
  match collect (checkEntries levels entry checkers) with
  | .error issues => .error issues
  | .ok is => .ok (.table ((checkers.map fun e => keyText e.1).zip is))

/-- The checker of a key. -/
def checkerOf? (key : String) : List (Value × Checker ν) → Option (Checker ν)
  | [] => none
  | (.str k, c) :: rest => if k = key then some c else checkerOf? key rest
  | _ :: rest => checkerOf? key rest

/-- The spelling in which a value has a field: its key on the wire, else its name. -/
def spelling? (f : Field ν) (entries : List (Value × Checker ν)) : Option String :=
  if (checkerOf? f.wire entries).isSome then some f.wire
  else if (checkerOf? f.name entries).isSome then some f.name
  else none

/-- The value of a field, at the spelling that was found. -/
def checkField (levels : Nat) (entries : List (Value × Checker ν)) (f : Field ν) : Checked ν :=
  match checkerOf? f.wire entries with
  | some c => (c (levels - f.level) f.shape).under (.key f.wire)
  | none =>
    match checkerOf? f.name entries with
    | some c => (c (levels - f.level) f.shape).under (.key f.name)
    | none =>
      match f.fallback with
      | some v => .ok (.ofValue v)
      | none => .error [⟨.missing, [.key f.wire]⟩]

/-- Whether a key has halves of pairs. -/
def isTornKey : Value → Bool
  | .str k => Text.isTorn k
  | _ => false

/-- The issues of keys that belong to no field. -/
def otherKeys (known : List String) : List (Value × Checker ν) → List Issue
  | [] => []
  | (.str k, _) :: rest =>
    if known.contains k then otherKeys known rest
    else ⟨.extra, [.key k]⟩ :: otherKeys known rest
  | (k, _) :: rest => ⟨.nonTextKey, [stepTo k]⟩ :: otherKeys known rest

/-- What the kind of the reverse side must be. -/
def inverseKind (kind : String) : String :=
  if kind = "many_to_one" then "one_to_many"
  else if kind = "one_to_many" then "many_to_one"
  else kind

/-- The parts that a source of a type cannot do without. -/
def requiredParts (type : String) : List String :=
  if type = "relation" then ["relation"]
  else if type = "field" then ["entity", "field"]
  else if type = "computed" then ["expression"]
  else if type = "join" then ["join"]
  else []

/-- Whether a part of a source is there and not empty. -/
def isPart : Instance ν → Bool
  | .plain v => v.truthy
  | _ => true

/-- What a rule holds against an instance. -/
def ruleFault? (rule : Rule) (i : Instance ν) : Option String :=
  match rule with
  | .relationShape =>
    let kind := (i.field schema "kind").text
    let reverse := i.field schema "reverse"
    if (kind = "many_to_one" ∨ kind = "one_to_one") ∧ (i.field schema "foreign_key").isNull then
      some "foreign_key is required for *_to_one relations"
    else
      match (reverse.field schema "kind").text? with
      | some k =>
        if inverseKind kind = k then none
        else some "reverse.kind must be the inverse of relation.kind"
      | none => none
  | .sourceParts =>
    let type := (i.field schema "type").text
    let lacking := (requiredParts type).filter fun p => !isPart (i.field schema p)
    if lacking.isEmpty then none
    else some (type ++ " source requires: " ++ Value.commaSeparated lacking)

/-- A value whose levels suffice checked against a model. A rule is applied only where everything
else fits. Of a closed model no key may have halves of pairs, and nothing else is said if one
has. -/
def checkFields (levels : Nat) (name : ν) (entries : List (Value × Checker ν)) : Checked ν :=
  let m := schema name
  let spellings := m.fields.map (spelling? · entries)
  let others := if m.closed then otherKeys (spellings.filterMap id) entries else []
  if m.closed && entries.any (isTornKey ·.1) then fail .undecodableText
  else match collect (m.fields.map (checkField levels entries)), others with
  | .ok values, [] =>
    let i := Instance.model name (spellings.map Option.isSome) values
    match m.rule.bind (ruleFault? schema · i) with
    | some fault => fail (.invalid fault)
    | none => .ok i
  | .ok _, others => .error others
  | .error issues, others => .error (issues ++ others)

/-- A value checked against a model, if there are levels for it. -/
def checkModel (levels : Nat) (name : ν) (entries : List (Value × Checker ν)) : Checked ν :=
  let level := (schema name).level
  if levels < level then fail .tooDeep else checkFields schema (levels - level) name entries

/-- The model of a tag. -/
def choice? (tag : Value) (choices : List (String × ν)) : Option (String × ν) :=
  match tag with
  | .str s => choices.find? (·.1 == s)
  | _ => none

/-- A value checked against the model that its tag chooses; issues lie under the tag. -/
def checkTagged (levels : Nat) (tag : String) (choices : List (String × ν)) (v : Value)
    (entries : List (Value × Checker ν)) : Checked ν :=
  match v.lookup? tag with
  | none => fail (.noTag tag)
  | some found =>
    match choice? found choices with
    | some (t, name) => (checkModel schema levels name entries).under (.key t)
    | none => fail (.unknownTag tag (Text.mended (shown found Value.plain)) (choices.map (·.1)))

/-- What is said of one text in the place of a collection of names. -/
def lonelyName : Cause :=
  .invalid "existing_entities must be a collection of entity names, not a single string"

/-- A list of names; one text alone is none. -/
def checkNames (levels : Nat) (v : Value) (parts : Parts ν) : Checked ν :=
  match v, parts with
  | .str _, _ => fail lonelyName
  | .bytes _, _ => fail lonelyName
  | _, .items checkers => checkList levels 0 anyText checkers
  | _, _ => fail .notList

/-- A value with its parts checked against a shape. -/
def checkParts (v : Value) (parts : Parts ν) (levels : Nat) : Shape ν → Checked ν
  | any => .ok (.plain v)
  | text least most pattern =>
    readWith .str (textFault? least most pattern) (Scalar.readText v)
  | flag => ofReader .bool (Scalar.readFlag v)
  | whole bounds => readWith .int (boundFault? bounds) (Scalar.readWhole v)
  | real => ofReader .float (Scalar.readReal v)
  | scalar => if isScalar v then .ok (.plain v) else .error (scalarIssues v)
  | oneOf words =>
    match v with
    | .str s => if words.contains s then .ok (.plain v) else fail (wordFault words s)
    | _ => fail (.notOneOf words)
  | path =>
    match v with
    | .str s => .ok (.plain (.str (Text.Path.normalize s)))
    | _ => fail .notPath
  | names => checkNames levels v parts
  | list least item =>
    match parts with
    | .items checkers => checkList levels least item checkers
    | _ => fail .notList
  | mapping =>
    match parts with
    | .entries checkers =>
      match checkers.flatMap fun e => keyIssues e.1 with
      | [] => .ok (.plain (withTextKeys v))
      | issues => .error issues
    | _ => fail .notMapping
  | table entry =>
    match parts with
    | .entries checkers => checkTable levels entry checkers
    | _ => fail .notMapping
  | optional inner =>
    match v with
    | .null => .ok (.plain .null)
    | _ => checkParts v parts levels inner
  | model name =>
    match parts with
    | .entries checkers => checkModel schema levels name checkers
    | _ => fail (.notModel (schema name).title)
  | tagged tag choices =>
    match parts with
    | .entries checkers => checkTagged schema levels tag choices v checkers
    | _ => fail .notTagged

end Shape

namespace Value

variable {ν : Type} (schema : Schema ν)

mutual

/-- The parts of a value. -/
def parts : Value → Parts ν
  | .list items => .items (checkers items)
  | .set items => .items (checkers items)
  | .pair k v => .items [Shape.checkParts schema k (parts k), Shape.checkParts schema v (parts v)]
  | .obj entries => .entries (fieldCheckers entries)
  | .map entries => .entries (entryCheckers entries)
  | .loop v => parts v
  | _ => .none

/-- The checkers of items. -/
def checkers : List Value → List (Checker ν)
  | [] => []
  | v :: vs => Shape.checkParts schema v (parts v) :: checkers vs

/-- The checkers of the entries of a mapping with text keys. -/
def fieldCheckers : List (String × Value) → List (Value × Checker ν)
  | [] => []
  | (k, v) :: rest => (.str k, Shape.checkParts schema v (parts v)) :: fieldCheckers rest

/-- The checkers of the entries of a mapping with any keys. -/
def entryCheckers : List (Value × Value) → List (Value × Checker ν)
  | [] => []
  | (k, v) :: rest => (k, Shape.checkParts schema v (parts v)) :: entryCheckers rest

end

/-- Checks a value against a shape. -/
def check (v : Value) (s : Shape ν) : Checked ν :=
  Shape.checkParts schema v (v.parts schema) Shape.levelLimit s

end Value
end SchemaIntents
