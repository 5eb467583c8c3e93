/-!
# Spans of time

A duration is kept as the standard library keeps it: whole seconds, at most `2^64 - 1` of
them, and the nanoseconds past them, fewer than a billion.  Durations are built from whole
milliseconds (a configured parse time limit) or microseconds, and read back as whole
microseconds, a count that may need more than 64 bits.
-/

namespace ShapeSearch

/-- A span of time: whole seconds and the nanoseconds past them. -/
structure Duration where
  secs : UInt64
  nanos : Fin 1000000000
  deriving Repr, DecidableEq, Inhabited

namespace Duration

/-- The duration of a number of milliseconds. -/
def ofMillis (ms : UInt64) : Duration :=
  ⟨ms / 1000, ⟨(ms % 1000).toNat * 1000000, by
    have : (ms % 1000).toNat < 1000 := by simp [UInt64.toNat_mod]; omega
    omega⟩⟩

/-- The duration of a number of microseconds. -/
def ofMicros (us : UInt64) : Duration :=
  ⟨us / 1000000, ⟨(us % 1000000).toNat * 1000, by
    have : (us % 1000000).toNat < 1000000 := by simp [UInt64.toNat_mod]; omega
    omega⟩⟩

/-- The whole microseconds in a duration. -/
def asMicros (d : Duration) : Nat :=
  d.secs.toNat * 1000000 + d.nanos.val / 1000

/-- A duration of whole milliseconds holds a thousand microseconds for each. -/
theorem asMicros_ofMillis (ms : UInt64) : (ofMillis ms).asMicros = ms.toNat * 1000 := by
  simp [asMicros, ofMillis, UInt64.toNat_div, UInt64.toNat_mod]
  omega

/-- A duration of whole microseconds holds exactly them. -/
theorem asMicros_ofMicros (us : UInt64) : (ofMicros us).asMicros = us.toNat := by
  simp [asMicros, ofMicros, UInt64.toNat_div, UInt64.toNat_mod]
  omega

end Duration

end ShapeSearch
