import SchemaIntents.Sorting
import SchemaIntents.Value

/-!
The order of keys of any kind: texts by code points, numbers by what they count, days and moments by
time, bytes by their values. Keys of two families have no order.
-/
namespace SchemaIntents.Json

/-- Why keys of a mapping cannot be written in order. -/
inductive KeyFault where
  /-- Two keys of kinds that have no order. -/
  | unordered (left right : String)
  /-- Two moments only one of which has an offset. -/
  | offsets
  /-- A day and a moment. -/
  | dayWithMoment
  /-- A key of a kind that cannot be written. -/
  | unwritable (kind : String)
  deriving DecidableEq, Repr

def KeyFault.message : KeyFault → String
  | .unordered l r => s!"'<' not supported between instances of '" ++ l ++ "' and '" ++ r ++ "'"
  | .offsets => "can't compare offset-naive and offset-aware datetimes"
  | .dayWithMoment => "can't compare datetime.datetime to datetime.date"
  | .unwritable k => s!"keys must be str, int, float, bool or None, not {k}"

/-- Whether a number comes before another. -/
def numberBefore (a b : Int ⊕ Binary64) : Bool :=
  match a, b with
  | .inl m, .inl n => m < n
  | .inl m, .inr y => y.compareInt? m == some .gt
  | .inr x, .inl n => x.compareInt? n == some .lt
  | .inr x, .inr y => x.isBelow y

/-- Whether a key comes before another. -/
def keyBefore (a b : Value) : Except KeyFault Bool :=
  match a, b with
  | .str s, .str t => .ok (s < t)
  | .date d, .date e => .ok (d.number < e.number)
  | .dateTime t, .dateTime u =>
    if t.offset.isSome = u.offset.isSome then .ok (t.instant < u.instant) else .error .offsets
  | .date _, .dateTime _ => .error .dayWithMoment
  | .dateTime _, .date _ => .error .dayWithMoment
  | .bytes s, .bytes t => .ok (s < t)
  | a, b =>
    match a.number?, b.number? with
    | some m, some n => .ok (numberBefore m n)
    | _, _ => .error (.unordered a.qualifiedKindName b.qualifiedKindName)

/-- Entries in the order of their keys. -/
def inKeyOrder {α : Type} (entries : List (Value × α)) : Except KeyFault (List (Value × α)) :=
  Sorting.sort (fun e f => keyBefore e.1 f.1) entries

/-- Entries in the order of their keys; as they are if there is no such order. -/
def arranged {α : Type} (entries : List (Value × α)) : List (Value × α) :=
  match inKeyOrder entries with
  | .ok es => es
  | .error _ => entries

end SchemaIntents.Json
