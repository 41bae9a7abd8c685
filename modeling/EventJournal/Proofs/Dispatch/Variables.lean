/-
EventJournal/Proofs/Dispatch/Variables.lean

Settings that are taken from variables.

A variable for a number may be set to a numeral below 2^64 with white space around it, in
whatever way the number is spelled (`Reads`); any other text is malformed.  All four numbers are
read before a setting is looked at, so of the malformed texts the first one is reported, in the
order of `numericKeys`, and settings out of range are reported only if there is none
(`ofLookup_eq`).

What the variables give is said without computing it (`Gives`): a variable that is set gives
its setting, and one that is not leaves the default.  There is at most one such configuration
(`gives_iff`).

Main result: reading variables fails as said above, and otherwise answers with what they give;
and settings that are written into variables, in any white space, are read back
(`readsVariables_ofLookup`).
-/
import EventJournal.Dispatch.Config
import EventJournal.Proofs.Text.Numeral

namespace EventJournal

/-- As many units as a variable can name are not beyond the longest span. -/
theorem Duration.nanos_ofNanos_mul {n unit : Nat} (hn : n < Nat.pow 2 64)
    (hunit : unit ≤ TimeUnit.second) : (ofNanos (n * unit)).nanos = n * unit := by
  have hlt : n * unit ≤ (Nat.pow 2 64 - 1) * TimeUnit.second :=
    Nat.mul_le_mul (Nat.le_sub_one_of_lt hn) hunit
  exact Nat.min_eq_left (hlt.trans (by decide))

namespace DispatchConfig

/-! ### Numbers -/

/-- The text is read as the number `n`. -/
def Reads (text : String) (n : Nat) : Prop := Text.Spells text.toList n ∧ n < Nat.pow 2 64

/-- A text is taken for a number if it spells one of 64 bits. -/
theorem number?_eq_some_iff {text : String} {n : Nat} : number? text = some n ↔ Reads text n := by
  rw [number?, Option.filter_eq_some_iff, Text.numeral?_trim_eq_some_iff, decide_eq_true_iff]
  rfl

/-- So the others spell none. -/
theorem number?_eq_none_iff {text : String} : number? text = none ↔ ∀ n, ¬ Reads text n := by
  simp only [← number?_eq_some_iff, Option.eq_none_iff_forall_ne_some]

/-- The variable is set to a text that is no number. -/
def Malformed (lookup : String → Option String) (key value : String) : Prop :=
  lookup key = some value ∧ ∀ n, ¬ Reads value n

/-- The text to which a variable is set, if it is no number. -/
def malformed? (lookup : String → Option String) (key : String) : Option String :=
  (lookup key).filter fun text => (number? text).isNone

/-- The number to which a variable is set. -/
def setNumber? (lookup : String → Option String) (key : String) : Option Nat :=
  (lookup key).bind number?

section Variables

variable {lookup : String → Option String} {key : String}

/-- A malformed variable is found with its text. -/
theorem malformed?_eq_some_iff {value : String} :
    malformed? lookup key = some value ↔ Malformed lookup key value := by
  rw [malformed?, Option.filter_eq_some_iff, Option.isNone_iff_eq_none, number?_eq_none_iff]
  rfl

theorem malformed?_eq_none_iff :
    malformed? lookup key = none ↔ ∀ value, ¬ Malformed lookup key value := by
  simp only [← malformed?_eq_some_iff, Option.eq_none_iff_forall_ne_some]

/-- A variable is refused if it is malformed. -/
theorem numberAt_eq (lookup : String → Option String) (key : String) :
    numberAt lookup key = match malformed? lookup key with
      | some value => .error (.invalid key value)
      | none => .ok (setNumber? lookup key) := by
  unfold numberAt malformed? setNumber?
  cases lookup key with
  | none => rfl
  | some text => cases h : number? text <;> simp [Option.filter, h]

end Variables

/-! ### Range -/

/-- The settings cannot be used. -/
def OutOfRange (c : DispatchConfig) : Prop :=
  Text.Blank c.name.toList ∨ c.batchSize = 0 ∨ c.interval.nanos = 0 ∨
    ∃ d, c.confirmationCheckInterval = some d ∧ d.nanos = 0

/-- Settings that are out of range are refused as such, and all others are not. -/
theorem checked_cases (c : DispatchConfig) :
    (¬ c.OutOfRange ∧ c.checked = .ok c) ∨
      (c.OutOfRange ∧ ∃ text, c.checked = .error (.outOfRange text)) := by
  have hzero (d : Duration) : d = .zero ↔ d.nanos = 0 :=
    ⟨fun h => h ▸ rfl, fun h => Duration.ext h⟩
  have hcheck : c.confirmationCheckInterval = some .zero ↔
      ∃ d, c.confirmationCheckInterval = some d ∧ d.nanos = 0 := by
    simp only [← hzero, exists_eq_right]
  unfold checked flaw? OutOfRange
  simp only [Text.trim_eq_nil_iff, hzero, hcheck]
  split_ifs with hname hbatch hinterval hcheck <;> simp [*]

/-! ### What variables give -/

/-- The variables for numbers, in the order in which they are read. -/
def numericKeys : List String :=
  [intervalKey, batchSizeKey, confirmationTimeoutKey, confirmationCheckIntervalKey]

/-- The settings if no variable is set. -/
def unset : DispatchConfig := {}

section Variables

variable (lookup : String → Option String)

/-- The settings that variables give if none of them is malformed. -/
def given : DispatchConfig where
  name := (lookup nameKey).getD unset.name
  interval := ((setNumber? lookup intervalKey).map Duration.ofMillis).getD unset.interval
  batchSize := (setNumber? lookup batchSizeKey).getD unset.batchSize
  confirmationTimeout :=
    ((setNumber? lookup confirmationTimeoutKey).map Duration.ofSecs).getD unset.confirmationTimeout
  confirmationCheckInterval :=
    (setNumber? lookup confirmationCheckIntervalKey).map Duration.ofMillis

/-- The first malformed variable, as it is reported. -/
def refusal? : Option ConfigError :=
  numericKeys.findSome? fun key => (malformed? lookup key).map (ConfigError.invalid key)

/-- Malformed variables are reported before the settings are looked at. -/
theorem ofLookup_eq :
    ofLookup lookup = match refusal? lookup with
      | some e => .error e
      | none => (given lookup).checked := by
  unfold ofLookup refusal? numericKeys
  simp only [numberAt_eq, List.findSome?_cons]
  -- each number is read only if those before it are not malformed, in the order of the keys
  cases malformed? lookup intervalKey with
  | some => rfl
  | none => cases malformed? lookup batchSizeKey with
    | some => rfl
    | none => cases malformed? lookup confirmationTimeoutKey with
      | some => rfl
      | none => cases malformed? lookup confirmationCheckIntervalKey <;> rfl

/-- Of a variable for a number: what holds if it is not set, and what holds of its number. -/
def GivesNumber (key : String) (isUnset : Prop) (isSet : Nat → Prop) : Prop :=
  match lookup key with
  | none => isUnset
  | some text => ∃ n, Reads text n ∧ isSet n

/-- The settings that variables give: each that is set gives its setting, in its own unit. -/
structure Gives (c : DispatchConfig) : Prop where
  name : c.name = (lookup nameKey).getD unset.name
  interval : GivesNumber lookup intervalKey (c.interval = unset.interval)
    fun n => c.interval.nanos = n * TimeUnit.millisecond
  batchSize : GivesNumber lookup batchSizeKey (c.batchSize = unset.batchSize)
    fun n => c.batchSize = n
  confirmationTimeout : GivesNumber lookup confirmationTimeoutKey
    (c.confirmationTimeout = unset.confirmationTimeout)
    fun n => c.confirmationTimeout.nanos = n * TimeUnit.second
  confirmationCheckInterval : GivesNumber lookup confirmationCheckIntervalKey
    (c.confirmationCheckInterval = unset.confirmationCheckInterval)
    fun n => ∃ d, c.confirmationCheckInterval = some d ∧ d.nanos = n * TimeUnit.millisecond

end Variables

variable {lookup : String → Option String} {c : DispatchConfig}

/-- A variable for a number settles what it gives, unless it is malformed. -/
theorem givesNumber_iff {α : Type} {x unset : α} {isSet : Nat → Prop} {key : String}
    (of : Nat → α) (h : ∀ n, n < Nat.pow 2 64 → (isSet n ↔ x = of n)) :
    GivesNumber lookup key (x = unset) isSet ↔
      malformed? lookup key = none ∧ x = ((setNumber? lookup key).map of).getD unset := by
  unfold GivesNumber malformed? setNumber?
  cases lookup key with
  | none => simp
  | some text =>
    simp only [← number?_eq_some_iff]
    cases hn : number? text with
    | none => simp [Option.filter, hn]
    | some n =>
      -- only numbers of 64 bits are read, so the unit cannot carry them too far
      have hlt : n < Nat.pow 2 64 := (number?_eq_some_iff.1 hn).2
      simp [Option.filter, hn, h n hlt]

/-- A span of whole units is known by their number. -/
theorem nanos_eq_iff {d : Duration} {n unit : Nat} (hn : n < Nat.pow 2 64)
    (hunit : unit ≤ TimeUnit.second) : d.nanos = n * unit ↔ d = .ofNanos (n * unit) := by
  constructor
  · exact fun h => Duration.ext (h.trans (Duration.nanos_ofNanos_mul hn hunit).symm)
  · rintro rfl
    exact Duration.nanos_ofNanos_mul hn hunit

/-- A variable for a count, which has no unit. -/
theorem givesCount_iff {m unset : Nat} {key : String} :
    (GivesNumber lookup key (m = unset) fun n => m = n) ↔
      malformed? lookup key = none ∧ m = (setNumber? lookup key).getD unset := by
  rw [givesNumber_iff (fun n => n) fun _ _ => Iff.rfl, Option.map_id']

/-- A variable for a span, in whole units. -/
theorem givesSpan_iff {d unset : Duration} {unit : Nat} {key : String}
    (hunit : unit ≤ TimeUnit.second) :
    (GivesNumber lookup key (d = unset) fun n => d.nanos = n * unit) ↔
      malformed? lookup key = none ∧
        d = ((setNumber? lookup key).map fun n => .ofNanos (n * unit)).getD unset :=
  givesNumber_iff _ fun _ hn => nanos_eq_iff hn hunit

/-- A variable for a span that there need not be. -/
theorem givesOptionalSpan_iff {span : Option Duration} {unit : Nat} {key : String}
    (hunit : unit ≤ TimeUnit.second) :
    (GivesNumber lookup key (span = none) fun n => ∃ d, span = some d ∧ d.nanos = n * unit) ↔
      malformed? lookup key = none ∧
        span = (setNumber? lookup key).map fun n => .ofNanos (n * unit) := by
  rw [givesNumber_iff fun n => some (.ofNanos (n * unit))]
  · cases setNumber? lookup key <;> rfl
  · intro n hn
    simp only [nanos_eq_iff hn hunit, exists_eq_right]

/-- Variables that are not malformed give one configuration, and others give none. -/
theorem gives_iff :
    Gives lookup c ↔ (∀ key ∈ numericKeys, malformed? lookup key = none) ∧ c = given lookup := by
  constructor
  · rintro ⟨hname, hinterval, hbatch, htimeout, hcheck⟩
    rw [givesSpan_iff (by decide)] at hinterval htimeout
    rw [givesCount_iff] at hbatch
    rw [unset, givesOptionalSpan_iff (by decide)] at hcheck
    refine ⟨by simp [numericKeys, hinterval.1, hbatch.1, htimeout.1, hcheck.1], ?_⟩
    -- the settings are settled one by one, so there is no choice left
    obtain ⟨name, interval, batchSize, timeout, check⟩ := c
    obtain ⟨rfl, rfl, rfl, rfl, rfl⟩ : _ ∧ _ ∧ _ ∧ _ ∧ _ :=
      ⟨hname, hinterval.2, hbatch.2, htimeout.2, hcheck.2⟩
    rfl
  · rintro ⟨hkeys, rfl⟩
    simp only [numericKeys, List.forall_mem_cons] at hkeys
    obtain ⟨hinterval, hbatch, htimeout, hcheck, -⟩ := hkeys
    exact ⟨rfl, (givesSpan_iff (by decide)).2 ⟨hinterval, rfl⟩, givesCount_iff.2 ⟨hbatch, rfl⟩,
      (givesSpan_iff (by decide)).2 ⟨htimeout, rfl⟩,
      (givesOptionalSpan_iff (by decide)).2 ⟨hcheck, rfl⟩⟩

/-! ### Results -/

/-- The variable is malformed, and none that is read before it is. -/
def FirstMalformed (lookup : String → Option String) (key value : String) : Prop :=
  Malformed lookup key value ∧ ∃ before after, numericKeys = before ++ key :: after ∧
    ∀ k ∈ before, ∀ v, ¬ Malformed lookup k v

/-- The refusal is about the first malformed variable in the order of reading. -/
theorem refusal?_eq_some_iff {e : ConfigError} :
    refusal? lookup = some e ↔
      ∃ key value, FirstMalformed lookup key value ∧ e = .invalid key value := by
  unfold refusal?
  simp only [List.findSome?_eq_some_iff, Option.map_eq_some_iff, Option.map_eq_none_iff,
    malformed?_eq_some_iff, malformed?_eq_none_iff]
  constructor
  · rintro ⟨before, key, after, hkeys, ⟨value, h, rfl⟩, hbefore⟩
    exact ⟨key, value, ⟨h, before, after, hkeys, hbefore⟩, rfl⟩
  · rintro ⟨key, value, ⟨h, before, after, hkeys, hbefore⟩, rfl⟩
    exact ⟨before, key, after, hkeys, ⟨value, h, rfl⟩, hbefore⟩

/-- Nothing is refused if no variable is malformed. -/
theorem refusal?_eq_none_iff :
    refusal? lookup = none ↔ ∀ key ∈ numericKeys, malformed? lookup key = none := by
  simp only [refusal?, List.findSome?_eq_none_iff, Option.map_eq_none_iff]

/-- No other error than a refusal reports a variable. -/
theorem ofLookup_eq_invalid_iff {key value : String} :
    ofLookup lookup = .error (.invalid key value) ↔ FirstMalformed lookup key value := by
  have hfirst : refusal? lookup = some (.invalid key value) ↔ FirstMalformed lookup key value := by
    simp [refusal?_eq_some_iff]
  rw [← hfirst, ofLookup_eq]
  cases refusal? lookup with
  | some e => simp
  | none => obtain ⟨-, h⟩ | ⟨-, text, h⟩ := checked_cases (given lookup) <;> simp [h]

/-- What variables give is checked as a whole. -/
theorem ofLookup_of_gives (h : Gives lookup c) : ofLookup lookup = c.checked := by
  obtain ⟨hkeys, rfl⟩ := gives_iff.1 h
  rw [ofLookup_eq, refusal?_eq_none_iff.2 hkeys]

/-- Unless a variable is malformed, variables give settings. -/
theorem gives_or_invalid (lookup : String → Option String) :
    Gives lookup (given lookup) ∨ ∃ key value, ofLookup lookup = .error (.invalid key value) := by
  cases h : refusal? lookup with
  | none => exact .inl (gives_iff.2 ⟨refusal?_eq_none_iff.1 h, rfl⟩)
  | some e =>
    obtain ⟨key, value, -, rfl⟩ := refusal?_eq_some_iff.1 h
    exact .inr ⟨key, value, by rw [ofLookup_eq, h]⟩

/-- Settings out of range are reported if the variables give them. -/
theorem ofLookup_eq_outOfRange_iff :
    (∃ text, ofLookup lookup = .error (.outOfRange text)) ↔ ∃ c, Gives lookup c ∧ c.OutOfRange := by
  constructor
  · rintro ⟨text, h⟩
    obtain hgives | ⟨key, value, hinvalid⟩ := gives_or_invalid lookup
    · refine ⟨given lookup, hgives, ?_⟩
      obtain ⟨-, hok⟩ | ⟨hrange, -⟩ := checked_cases (given lookup)
      · rw [ofLookup_of_gives hgives, hok] at h
        cases h
      · exact hrange
    · rw [hinvalid] at h
      cases h
  · rintro ⟨c, hgives, hrange⟩
    obtain ⟨hnot, -⟩ | ⟨-, text, h⟩ := checked_cases c
    · exact absurd hrange hnot
    · exact ⟨text, (ofLookup_of_gives hgives).trans h⟩

/-- Settings are read if the variables give them and they are in range. -/
theorem ofLookup_eq_ok_iff : ofLookup lookup = .ok c ↔ Gives lookup c ∧ ¬ c.OutOfRange := by
  constructor
  · intro h
    obtain hgives | ⟨key, value, hinvalid⟩ := gives_or_invalid lookup
    · obtain ⟨hrange, hok⟩ | ⟨-, text, herror⟩ := checked_cases (given lookup)
      · rw [ofLookup_of_gives hgives, hok] at h
        cases h
        exact ⟨hgives, hrange⟩
      · rw [ofLookup_of_gives hgives, herror] at h
        cases h
    · rw [hinvalid] at h
      cases h
  · rintro ⟨hgives, hrange⟩
    obtain ⟨-, hok⟩ | ⟨hout, -⟩ := checked_cases c
    · exact (ofLookup_of_gives hgives).trans hok
    · exact absurd hout hrange

/-! ### Writing -/

/-- White space around a text. -/
structure Margin where
  front : List Char
  back : List Char
  front_blank : Text.Blank front
  back_blank : Text.Blank back

/-- A number in decimal digits, within the margin. -/
def Margin.around (margin : Margin) (n : Nat) : String :=
  String.ofList (margin.front ++ (toString n).toList ++ margin.back)

/-- A number is read from its digits in any white space. -/
theorem reads_around (margin : Margin) {n : Nat} (hn : n < Nat.pow 2 64) :
    Reads (margin.around n) n := by
  refine ⟨?_, hn⟩
  rw [Margin.around, String.toList_ofList]
  -- the margin is cut off on both sides, and the digits are left
  exact ⟨margin.front, (toString n).toList, margin.back, margin.front_blank, margin.back_blank,
    rfl, Text.numeral_toString n⟩

/-- The span is a number of whole units that a variable can name. -/
def Counts (unit : Nat) (d : Duration) : Prop := ∃ n, n < Nat.pow 2 64 ∧ d.nanos = n * unit

/-- All numbers of the settings can be written in the units of the variables. -/
structure Writable (c : DispatchConfig) : Prop where
  interval : Counts TimeUnit.millisecond c.interval
  batchSize : c.batchSize < Nat.pow 2 64
  confirmationTimeout : Counts TimeUnit.second c.confirmationTimeout
  confirmationCheckInterval : ∀ d, c.confirmationCheckInterval = some d →
    Counts TimeUnit.millisecond d

/-- The number to which a variable is set for the settings, in the unit of the variable. -/
def numberFor (c : DispatchConfig) (key : String) : Option Nat :=
  if key = intervalKey then some (c.interval.nanos / TimeUnit.millisecond)
  else if key = batchSizeKey then some c.batchSize
  else if key = confirmationTimeoutKey then some (c.confirmationTimeout.nanos / TimeUnit.second)
  else if key = confirmationCheckIntervalKey then
    c.confirmationCheckInterval.map fun d => d.nanos / TimeUnit.millisecond
  else none

/-- The variables for the settings: the name as it is, and each number within its margin. -/
def written (c : DispatchConfig) (margin : String → Margin) (key : String) : Option String :=
  if key = nameKey then some c.name
  else (c.numberFor key).map (margin key).around

variable {margin : String → Margin}

theorem written_of_ne {key : String} (hkey : key ≠ nameKey) :
    c.written margin key = (c.numberFor key).map (margin key).around := if_neg hkey

theorem numberFor_confirmationCheckIntervalKey (c : DispatchConfig) :
    c.numberFor confirmationCheckIntervalKey =
      c.confirmationCheckInterval.map fun d => d.nanos / TimeUnit.millisecond := rfl

/-- A variable that is written gives the number that was written. -/
theorem givesNumber_written {key : String} {n : Nat} {isUnset : Prop} {isSet : Nat → Prop}
    (hkey : key ≠ nameKey) (hnumber : c.numberFor key = some n) (hn : n < Nat.pow 2 64)
    (h : isSet n) : GivesNumber (c.written margin) key isUnset isSet := by
  unfold GivesNumber
  rw [written_of_ne hkey, hnumber]
  exact ⟨n, reads_around _ hn, h⟩

/-- Whole units are counted by division. -/
theorem div_eq_of_counts {d : Duration} {n unit : Nat} (hunit : 0 < unit)
    (h : d.nanos = n * unit) : d.nanos / unit = n := by
  rw [h, Nat.mul_div_cancel n hunit]

/-- What is written gives the settings back. -/
theorem gives_written (h : c.Writable) : Gives (c.written margin) c where
  name := rfl
  interval := by
    obtain ⟨n, hn, hnanos⟩ := h.interval
    have hnumber : c.numberFor intervalKey = some n :=
      congrArg some (div_eq_of_counts (by decide) hnanos)
    exact givesNumber_written (by decide) hnumber hn hnanos
  batchSize := givesNumber_written (by decide) rfl h.batchSize rfl
  confirmationTimeout := by
    obtain ⟨n, hn, hnanos⟩ := h.confirmationTimeout
    have hnumber : c.numberFor confirmationTimeoutKey = some n :=
      congrArg some (div_eq_of_counts (by decide) hnanos)
    exact givesNumber_written (by decide) hnumber hn hnanos
  confirmationCheckInterval := by
    cases hcheck : c.confirmationCheckInterval with
    | none =>
      unfold GivesNumber
      rw [written_of_ne (by decide), numberFor_confirmationCheckIntervalKey, hcheck]
      rfl
    | some d =>
      obtain ⟨n, hn, hnanos⟩ := h.confirmationCheckInterval d hcheck
      have hnumber : c.numberFor confirmationCheckIntervalKey = some n := by
        rw [numberFor_confirmationCheckIntervalKey, hcheck, Option.map_some,
          div_eq_of_counts (by decide) hnanos]
      exact givesNumber_written (by decide) hnumber hn ⟨d, rfl, hnanos⟩

/-! ### All variables -/

/-- What reading variables comes to, and that it undoes writing. -/
structure ReadsVariables : Prop where
  invalid : ∀ lookup key value,
    ofLookup lookup = .error (.invalid key value) ↔ FirstMalformed lookup key value
  outOfRange : ∀ lookup,
    (∃ text, ofLookup lookup = .error (.outOfRange text)) ↔ ∃ c, Gives lookup c ∧ c.OutOfRange
  ok : ∀ lookup c, ofLookup lookup = .ok c ↔ Gives lookup c ∧ ¬ c.OutOfRange
  written : ∀ c margin, c.checked = .ok c → c.Writable → ofLookup (c.written margin) = .ok c

theorem readsVariables_ofLookup : ReadsVariables where
  invalid _ _ _ := ofLookup_eq_invalid_iff
  outOfRange _ := ofLookup_eq_outOfRange_iff
  ok _ _ := ofLookup_eq_ok_iff
  written _ _ hchecked hwritable := (ofLookup_of_gives (gives_written hwritable)).trans hchecked

example : ofLookup (unset.written fun _ => ⟨[' ', '\t'], ['\n'], by decide, by decide⟩) =
    .ok unset := by decide

end DispatchConfig

end EventJournal
