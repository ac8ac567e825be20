import MarkedSheet.Decimal.Shortest

/-!
# Durations and instants

Time limits count milliseconds, clocks seconds and nanoseconds.  As a text a duration is a number of
seconds: the double nearest to the whole seconds plus the double nearest to the rest, rounded once
more.
-/

namespace MarkedSheet

/-- A length of time. -/
structure Duration where
  milliseconds : Nat
  deriving DecidableEq, Repr

/-- What a clock shows; it counts its seconds in 63 bits. -/
structure Instant where
  seconds : Nat
  nanoseconds : Nat
  deriving DecidableEq, Repr

/-- The number of smallest positive doubles that add up to a finite double. -/
def Binary64.units (x : Binary64) : Nat :=
  match x.magnitude with
  | .finite significand exponent => significand * Nat.pow 2 (exponent + 1074).toNat
  | _ => 0

namespace Duration

/-- A number of whole seconds. -/
def ofSeconds (seconds : Nat) : Duration :=
  ⟨1000 * seconds⟩

def seconds (d : Duration) : Binary64 :=
  let whole := Binary64.ofRatio false (d.milliseconds / 1000) 1
  let rest := Binary64.ofRatio false (d.milliseconds % 1000) 1000
  Binary64.ofRatio false (whole.units + rest.units) (Nat.pow 2 1074)

/-- The duration as a text, as in `1.5s`. -/
def text (d : Duration) : String :=
  d.seconds.text ++ "s"

end Duration

/-- The instant after a duration, if a clock can show it. -/
def Instant.after? (i : Instant) (d : Duration) : Option Instant :=
  let fraction := i.nanoseconds + 1000000 * (d.milliseconds % 1000)
  let seconds := i.seconds + d.milliseconds / 1000 + fraction / 1000000000
  if seconds < Nat.pow 2 63 then some ⟨seconds, fraction % 1000000000⟩ else none

end MarkedSheet
