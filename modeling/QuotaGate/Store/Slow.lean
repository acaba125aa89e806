/-
A slow counting store: window sets in the process, behind a delay.

A hit begins only after the delay, so one that is given up before leaves nothing behind.
The delay is a timer's, and as long as timers make it.  A sign of life comes at once.
-/
import QuotaGate.Store.Memory

namespace QuotaGate.Windows

/-- The counting store over window sets whose hits begin when a timer ends that is set to
`delay`. -/
def slowStore [Timer] (delay : Duration) : CountingStore Windows where
  hit w h :=
    let r := w.hit h
    { abandoned := w
      answer := some { delay := Timer.runs delay, result := r.2.mapError .clock, state := r.1 } }
  ping w := .now w (.ok ()) w

end QuotaGate.Windows
