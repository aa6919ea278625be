import SchemaIntents.Ir.Envelope

/-!
Collectors of diagnostics. Entries stay in the order in which they were reported and are never taken
away; what is no diagnostic is refused and leaves the collector as it is.
-/
namespace SchemaIntents

/-- The diagnostics that were reported so far, the earliest first. -/
structure Collector where
  entries : List Diagnostic := []
  deriving DecidableEq, Repr

namespace Collector

def size (c : Collector) : Nat :=
  c.entries.length

/-- The diagnostic that loose values make. -/
def diagnosticOf (severity : Severity) (code message path : Value) :
    Except (List Issue) Diagnostic :=
  (Value.check Ir.schema (.obj [("code", code), ("severity", .str severity.name),
    ("message", message), ("path", path)]) (.model .diagnostic)).map Ir.Part.diagnostic

/-- Reports one more diagnostic. -/
def report (c : Collector) (severity : Severity) (code message path : Value) :
    Except (List Issue) Collector :=
  (diagnosticOf severity code message path).map fun d => ⟨c.entries ++ [d]⟩

def hasErrors (c : Collector) : Bool :=
  c.entries.any Diagnostic.isError

/-- The number of entries of a severity. -/
def count (c : Collector) (severity : String) : Nat :=
  (c.entries.filter fun d => d.severity.name = severity).length

end Collector
end SchemaIntents
