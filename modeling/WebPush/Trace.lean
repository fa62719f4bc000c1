import WebPush.Entropy
import WebPush.Log.Record
/-!
# Trace — what an operation leaves behind besides its result

Preparing a message draws random values and keeps a log, and does both
even if it fails in the end. A traced computation takes the trace so far
and gives it back with its own part added.
-/

namespace WebPush

/-- The random values left, and the records so far. -/
structure Trace where
  entropy : Entropy
  log : List Log.Record := []

/-- A computation that draws random values and keeps a log. -/
abbrev Traced (ε α : Type) := Trace → Except ε α × Trace

namespace Trace

/-- One more record at the end of the log. -/
def note (trace : Trace) (record : Log.Record) : Trace :=
  { trace with log := trace.log ++ [record] }

/-- The trace of an entropy source before anything happened. -/
def start (entropy : Entropy) : Trace := ⟨entropy, []⟩

end Trace

end WebPush
