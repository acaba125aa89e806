/-
A counting store that is out of service: it refuses every call at once.
-/
import QuotaGate.Store.Basic

namespace QuotaGate

/-- The store that refuses every call, saying `detail`. -/
def outage (detail : String) : CountingStore Unit where
  hit _ _ := .now () (.error (.store (.unavailable detail))) ()
  ping _ := .now () (.error (.store (.unavailable detail))) ()

end QuotaGate
