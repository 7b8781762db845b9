/-!
# Durations

A length of time, in whole seconds and nanoseconds.
-/

namespace RespClient

/-- A length of time: `seconds`, and fewer than a second's worth of `nanoseconds`. -/
structure Duration where
  seconds : Nat
  nanoseconds : Nat
  deriving DecidableEq, Repr, Inhabited

/-- A whole number of seconds. -/
def Duration.ofSeconds (seconds : Nat) : Duration := ⟨seconds, 0⟩

/-- Whether no time passes at all. -/
def Duration.isZero (duration : Duration) : Bool :=
  duration.seconds = 0 && duration.nanoseconds = 0

end RespClient
