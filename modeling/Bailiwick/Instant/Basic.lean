/-!
Instants of universal time, in seconds since the start of 1970 and nanoseconds. A leap second is the second
half of the nanosecond range of the second before it, which is the last of its minute.
-/

namespace Bailiwick

structure Instant where
  seconds : Int
  nanos : Nat := 0
  nanos_lt : nanos < 1000000000 ∨ seconds % 60 = 59 ∧ nanos < 2000000000 := by exact .inl (by decide)
  deriving DecidableEq

namespace Instant

def epoch : Instant := { seconds := 0 }

instance : Repr Instant where
  reprPrec i _ := repr (i.seconds, i.nanos)

instance : LT Instant where
  lt a b := a.seconds < b.seconds ∨ (a.seconds = b.seconds ∧ a.nanos < b.nanos)

instance (a b : Instant) : Decidable (a < b) :=
  inferInstanceAs (Decidable (a.seconds < b.seconds ∨ (a.seconds = b.seconds ∧ a.nanos < b.nanos)))

def addDays (i : Instant) (days : Nat) : Instant where
  seconds := i.seconds + 86400 * days
  nanos := i.nanos
  nanos_lt := by
    have h := i.nanos_lt
    omega

end Instant

end Bailiwick
