/-!
Signals that reach an advance from outside: cancellation, and being dropped by its caller. Time is
counted in ticks from the beginning of the advance.

A wait that is over no later than a signal comes is not interrupted by it; of two signals the earlier
one counts.

Time passes in waits only. While a cursor itself runs, from an answer up to the next wait or the end of
the advance, nothing comes: the check behind an accepted page sees no cancellation that the wait for
the page has not seen, and one that comes later is for the next wait or the next advance. Turns, where
what comes is decided from outside, do not assume this (Proofs.Execution.Turns).
-/

set_option autoImplicit false

namespace Keyscan

/-- When the signals of one advance come. -/
structure Signals where
  /-- Whether cancellation has come before the advance. -/
  cancelled : Bool
  cancelAfter : Option Nat
  dropAfter : Option Nat
  deriving DecidableEq, Repr

/-- What ends a wait before its time. -/
inductive Interruption where
  | cancelled
  | dropped
  deriving DecidableEq, Repr

namespace Signals

/-- No signal ever comes. -/
def never : Signals := ⟨false, none, none⟩

/-- Cancellation has come before. -/
def fired : Signals := ⟨true, none, none⟩

/-- Whether cancellation has come before a time. -/
def cancelledBefore (s : Signals) (time : Nat) : Bool :=
  s.cancelled || s.cancelAfter.any (· < time)

/-- When cancellation comes, at the latest. -/
def cancelTime? (s : Signals) : Option Nat := if s.cancelled then some 0 else s.cancelAfter

/-- What interrupts a wait from a time on for so many ticks. -/
def interruption? (s : Signals) (start wait : Nat) : Option Interruption :=
  if wait = 0 then none
  else
    let due := start + wait
    match s.cancelTime?.filter (· < due), s.dropAfter.filter (· < due) with
    | none, none => none
    | some _, none => some .cancelled
    | none, some _ => some .dropped
    | some c, some d => if c ≤ d then some .cancelled else some .dropped

end Signals

end Keyscan
