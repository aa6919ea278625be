/-!
Log records. A run is a result with what was logged on the way to it.
-/
namespace SchemaIntents

/-- What was logged, how grave it is, and by whom. -/
structure Record where
  level : Nat
  logger : String
  message : String
  deriving DecidableEq, Repr

namespace Record

def debug (logger message : String) : Record :=
  ⟨10, logger, message⟩

def info (logger message : String) : Record :=
  ⟨20, logger, message⟩

def warning (logger message : String) : Record :=
  ⟨30, logger, message⟩

/-- The record with the intent it belongs to in front of its message. -/
def tagged (intentId : String) (r : Record) : Record :=
  { r with message := "[" ++ intentId ++ "] " ++ r.message }

end Record

/-- A result and what was logged on the way to it. -/
structure Run (α : Type) where
  log : List Record
  result : α

namespace Run

variable {α β : Type}

/-- A run that was preceded by some records. -/
def after (records : List Record) (r : Run α) : Run α :=
  ⟨records ++ r.log, r.result⟩

def map (f : α → β) (r : Run α) : Run β :=
  ⟨r.log, f r.result⟩

end Run
end SchemaIntents
