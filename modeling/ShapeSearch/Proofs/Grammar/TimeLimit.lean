import ShapeSearch.Config.Basic
import ShapeSearch.Grammar.Estimate

/-!
# Parse time limits

A searcher hands every parser it makes the search's optional timeout, and the parser takes
it as a 64-bit count of microseconds where 0 stands for no limit (`timeoutMicros`,
`limitOfMicros`).  The count is the timeout's whole microseconds, saturated at the largest
64-bit count.  So a timeout bounds parsing exactly when it is at least one microsecond: one
under a microsecond, such as a configured `parse_timeout_ms = 0`, lifts the bound just as no
timeout does (`configured_timeout_limit`).

Whether a parse overruns a limit is the parser's clock's to say, and the built-in grammars take
any clock.  On every clock a parse under a time limit gives the tree it gives without one, or
is aborted, and it is aborted exactly when it has a limit the clock says it overruns
(`parse_ofLanguage_eq_or_aborted`, `parse_ofLanguage_eq_aborted_iff`).  On a monotone clock,
where a parse that overruns a limit overruns every shorter one, a longer timeout keeps every
tree a shorter one gives (`parse_ofLanguage_of_longer`), and the estimated clock the program
runs on is monotone (`ParseClock.estimate_monotone`).  The step from no limit to a limit of a
microsecond is the exception: a timeout under a microsecond is no limit at all.
-/

namespace ShapeSearch

/-- A timeout reaches the parser as its whole microseconds, saturated at the largest 64-bit
count. -/
theorem timeoutMicros_toNat (d : Duration) :
    (timeoutMicros (some d)).toNat = min d.asMicros (UInt64.size - 1) := by
  by_cases h : d.asMicros < UInt64.size
  · rw [timeoutMicros, if_pos h, Nat.toUInt64_eq, UInt64.toNat_ofNat', Nat.mod_eq_of_lt h]
    omega
  · rw [timeoutMicros, if_neg h, Nat.toUInt64_eq, UInt64.toNat_ofNat',
      Nat.mod_eq_of_lt (by decide)]
    omega

/-- The parser is told there is no limit exactly when the timeout is under a microsecond. -/
theorem timeoutMicros_eq_zero_iff (d : Duration) :
    timeoutMicros (some d) = 0 ↔ d.asMicros = 0 := by
  rw [← UInt64.toNat_inj, timeoutMicros_toNat, UInt64.toNat_zero]
  have : 0 < UInt64.size - 1 := by decide
  omega

/-- The limit a parser reads from a timeout. -/
theorem limitOfMicros_timeoutMicros (d : Duration) :
    limitOfMicros (timeoutMicros (some d)) =
      if d.asMicros = 0 then none else some (min d.asMicros (UInt64.size - 1)) := by
  by_cases h : d.asMicros = 0
  · simp [limitOfMicros, (timeoutMicros_eq_zero_iff d).mpr h, h]
  · simp [limitOfMicros, mt (timeoutMicros_eq_zero_iff d).mp h, h, timeoutMicros_toNat]

/-- A configuration's time limit of `m` milliseconds reaches the parser as `m · 1000`
microseconds, saturated; no configured limit reaches it as 0. -/
theorem timeoutMicros_searchOptions (c : Config) :
    (timeoutMicros c.searchOptions.parseTimeout).toNat =
      (c.parseTimeoutMs.map fun m => min (m.toNat * 1000) (UInt64.size - 1)).getD 0 := by
  cases hm : c.parseTimeoutMs with
  | none => simp [Config.searchOptions, hm, timeoutMicros]
  | some m =>
    simp only [Config.searchOptions, hm, Option.map_some, Option.getD_some]
    rw [timeoutMicros_toNat, Duration.asMicros_ofMillis]

/-- **Configured parse time limits.**  A timeout `d` reaches the parser as its whole
microseconds, saturated at the largest 64-bit count, and that count is 0, the parser's "no
limit", exactly when `d` is under a microsecond.  A configuration's `parse_timeout_ms = m`
reaches it as `m · 1000`, saturated, which is 0 exactly when `m = 0` or nothing is
configured.  Parsing with a timeout is parsing with the limit it reaches the parser as: none
for a timeout under a microsecond. -/
theorem configured_timeout_limit (d : Duration) (c : Config) :
    ((timeoutMicros (some d)).toNat = min d.asMicros (UInt64.size - 1) ∧
      (timeoutMicros (some d) = 0 ↔ d.asMicros = 0)) ∧
    ((timeoutMicros c.searchOptions.parseTimeout).toNat =
        (c.parseTimeoutMs.map fun m => min (m.toNat * 1000) (UInt64.size - 1)).getD 0 ∧
      (timeoutMicros c.searchOptions.parseTimeout = 0 ↔
        c.parseTimeoutMs = none ∨ c.parseTimeoutMs = some 0)) ∧
    (∀ (g : Grammar) (bytes : ByteArray), g.parse bytes (some d) =
      g.base.parse bytes (if d.asMicros = 0 then none else some (min d.asMicros (UInt64.size - 1)))) := by
  refine ⟨⟨timeoutMicros_toNat d, timeoutMicros_eq_zero_iff d⟩,
    ⟨timeoutMicros_searchOptions c, ?_⟩, fun g bytes => ?_⟩
  · rw [← UInt64.toNat_inj, timeoutMicros_searchOptions, UInt64.toNat_zero]
    have : 1000 < UInt64.size - 1 := by decide
    cases c.parseTimeoutMs with
    | none => simp
    | some m =>
      simp only [Option.map_some, Option.getD_some, reduceCtorEq, Option.some.injEq, false_or,
        ← UInt64.toNat_inj, UInt64.toNat_zero]
      omega
  · rw [Grammar.parse, limitOfMicros_timeoutMicros]

/-! ## Parsing on a clock -/

/-- A clock on which a parse that overruns a limit overruns every shorter limit too. -/
def ParseClock.Monotone (clock : ParseClock) : Prop :=
  ∀ (l : Language) (bytes : ByteArray) (m m' : Nat), m ≤ m' →
    clock.overruns l bytes m' = true → clock.overruns l bytes m = true

/-- Building a tree fails only as malformed, never as aborted. -/
theorem build_ne_aborted (l : Language) (bytes : ByteArray) (name : String) :
    l.build bytes ≠ .error (.aborted name) := by
  unfold Language.build
  dsimp only
  split <;> simp

/-- A parser's failure is reported as a parse failure, and as nothing else. -/
theorem TreeParser.parse_eq_error_parse_iff (p : TreeParser) (bytes : ByteArray) (limit : Option Nat)
    (f : ParseFailure) : p.parse bytes limit = .error (.parse f) ↔ p.run bytes limit = .error f := by
  unfold TreeParser.parse
  split <;> simp [*]

/-- Under a limit, the parser of a built-in language builds the tree or aborts. -/
theorem parser_run_eq_or_aborted (clock : ParseClock) (l : Language) (bytes : ByteArray)
    (limit : Option Nat) :
    (l.parser clock).run bytes limit = l.build bytes ∨
      (l.parser clock).run bytes limit = .error (.aborted l.name) := by
  cases limit with
  | none => exact .inl rfl
  | some m =>
    by_cases ho : clock.overruns l bytes m
    · exact .inr (by simp [Language.parser, ho])
    · exact .inl (by simp [Language.parser, ho])

/-- The parser of a built-in language aborts exactly when it has a limit that the clock says
the parse overruns. -/
theorem parser_run_eq_aborted_iff (clock : ParseClock) (l : Language) (bytes : ByteArray)
    (limit : Option Nat) :
    (l.parser clock).run bytes limit = .error (.aborted l.name) ↔
      ∃ m, limit = some m ∧ clock.overruns l bytes m = true := by
  cases limit with
  | none => simpa [Language.parser] using build_ne_aborted l bytes l.name
  | some m =>
    by_cases ho : clock.overruns l bytes m
    · simp [Language.parser, ho]
    · simpa [Language.parser, ho] using build_ne_aborted l bytes l.name

/-- **A clock decides only whether a parse finishes.**  On every clock, a built-in grammar's
parse under a timeout gives what its parse without one gives on any clock, or is aborted. -/
theorem parse_ofLanguage_eq_or_aborted (l : Language) (clock clock' : ParseClock)
    (bytes : ByteArray) (timeout : Option Duration) :
    (Grammar.ofLanguage l clock).parse bytes timeout =
        (Grammar.ofLanguage l clock').parse bytes none ∨
      (Grammar.ofLanguage l clock).parse bytes timeout = .error (.parse (.aborted l.name)) := by
  unfold Grammar.parse
  rcases parser_run_eq_or_aborted clock l bytes (limitOfMicros (timeoutMicros timeout)) with h | h
  · left
    simp only [Grammar.ofLanguage, TreeParser.parse, h]
    rfl
  · right
    simp only [Grammar.ofLanguage, TreeParser.parse, h]

/-- A built-in grammar's parse is aborted exactly when its timeout reaches the parser as a
limit that the clock says the parse overruns. -/
theorem parse_ofLanguage_eq_aborted_iff (l : Language) (clock : ParseClock) (bytes : ByteArray)
    (timeout : Option Duration) :
    (Grammar.ofLanguage l clock).parse bytes timeout = .error (.parse (.aborted l.name)) ↔
      ∃ m, limitOfMicros (timeoutMicros timeout) = some m ∧ clock.overruns l bytes m = true := by
  rw [Grammar.parse, TreeParser.parse_eq_error_parse_iff]
  exact parser_run_eq_aborted_iff clock l bytes _

/-- **Longer timeouts keep trees.**  On a monotone clock, a parse that a timeout of at least a
microsecond lets finish gives the same under every longer timeout. -/
theorem parse_ofLanguage_of_longer {l : Language} {clock : ParseClock} {bytes : ByteArray}
    {d d' : Duration} (hmono : clock.Monotone) (hd : 0 < d.asMicros)
    (hle : d.asMicros ≤ d'.asMicros)
    (h : (Grammar.ofLanguage l clock).parse bytes (some d) ≠ .error (.parse (.aborted l.name))) :
    (Grammar.ofLanguage l clock).parse bytes (some d') =
      (Grammar.ofLanguage l clock).parse bytes (some d) := by
  have hlimit : ∀ e : Duration, 0 < e.asMicros →
      limitOfMicros (timeoutMicros (some e)) = some (min e.asMicros (UInt64.size - 1)) :=
    fun e he => by rw [limitOfMicros_timeoutMicros, if_neg (by omega)]
  have h' : (Grammar.ofLanguage l clock).parse bytes (some d') ≠
      .error (.parse (.aborted l.name)) := by
    rw [ne_eq, parse_ofLanguage_eq_aborted_iff, hlimit d' (by omega)]
    rintro ⟨m', hm', ho⟩
    cases hm'
    apply h
    rw [parse_ofLanguage_eq_aborted_iff, hlimit d hd]
    exact ⟨_, rfl, hmono l bytes _ _ (by omega) ho⟩
  rw [(parse_ofLanguage_eq_or_aborted l clock clock bytes (some d')).resolve_right h',
    (parse_ofLanguage_eq_or_aborted l clock clock bytes (some d)).resolve_right h]

/-- The estimated clock is monotone: what overruns a limit is a source too long to be read
within it, and the rest of the estimate does not depend on the limit. -/
theorem ParseClock.estimate_monotone : ParseClock.estimate.Monotone := by
  intro l bytes m m' hle ho
  have hlong' : ¬ bytes.size ≤ bytesPerMicrosecond * m' := by
    intro hfit
    simp [ParseClock.estimate, hfit] at ho
  have hlong : ¬ bytes.size ≤ bytesPerMicrosecond * m := by
    have := Nat.mul_le_mul_left bytesPerMicrosecond hle
    omega
  simp only [ParseClock.estimate, if_neg hlong'] at ho
  simp only [ParseClock.estimate, if_neg hlong]
  exact ho

/-- A configured limit of 0 ms reaches the parser as 0, which it reads as no limit. -/
theorem zero_ms_timeout_unbounded :
    timeoutMicros (Config.searchOptions { Config.empty with parseTimeoutMs := some 0 }).parseTimeout
      = 0 := by
  decide

end ShapeSearch
