import Daybook.Calendar.Duration
import Daybook.Proofs.Calendar.Elapsed
import Daybook.Proofs.Number.Digits

/-!
# Durations and the spans they split

Of every span of seconds there is exactly one split into weeks, days, hours, minutes and seconds in
which weeks stand for whole weeks only (`Splits.unique`). A duration is that split, but for weeks or
days beyond the largest part (`ofSeconds_eq_capped`). Spans of less than 2 ^ 32 days are not touched by
this (`capped_split`), and all spans between instants are much shorter (`between_eq_split`).

The split can be computed in 64 bits: no step of it leaves the range (`ofSeconds?_eq`), not even for
the least integer of 64 bits, of which the magnitude is no integer of 64 bits with a sign.

In the text of a duration every number is followed by a letter, so that the text can be taken apart
again (`text_injective`).
-/

namespace Daybook.Calendar

open Daybook.Number

namespace Duration

/-! ## Splits -/

/-- The days of a duration, with those of its weeks. -/
def wholeDays (d : Duration) : Nat :=
  7 * d.weeks + d.days

/-- The seconds of a duration. -/
def totalSeconds (d : Duration) : Nat :=
  d.wholeDays * secondsPerDay + d.hours * 3600 + d.minutes * 60 + d.seconds

/-- Whether the parts of a duration are within their bounds, and only one of weeks and days is
used. -/
structure Proper (d : Duration) : Prop where
  hours : d.hours < 24
  minutes : d.minutes < 60
  seconds : d.seconds < 60
  single : d.weeks = 0 ∨ d.days = 0

/-- Whether a duration is a split of so many seconds, in which weeks are used for a whole number of
them and days for everything else. -/
structure Splits (d : Duration) (total : Nat) : Prop extends d.Proper where
  total : d.totalSeconds = total
  inWeeks : d.days = 0 ↔ d.wholeDays % 7 = 0

/-- The split of so many seconds. -/
def split (total : Nat) : Duration :=
  let days := total / secondsPerDay
  let rest := total % secondsPerDay
  ⟨if days % 7 = 0 then days / 7 else 0, if days % 7 = 0 then 0 else days,
    rest / 3600, rest / 60 % 60, rest % 60⟩

/-- A duration with weeks and days cut to the largest part. -/
def capped (d : Duration) : Duration :=
  { d with weeks := min d.weeks maxPart, days := min d.days maxPart }

variable {d d' : Duration} {total total' : Nat}

theorem wholeDays_split (total : Nat) : (split total).wholeDays = total / secondsPerDay := by
  unfold wholeDays split
  dsimp only
  split <;> omega

theorem splits_split (total : Nat) : (split total).Splits total := by
  have hdays := wholeDays_split total
  refine ⟨⟨?_, ?_, ?_, ?_⟩, ?_, ?_⟩
  · show total % 86400 / 3600 < 24
    omega
  · show total % 86400 / 60 % 60 < 60
    omega
  · show total % 86400 % 60 < 60
    omega
  · unfold split
    dsimp only
    split
    · exact .inr rfl
    · exact .inl rfl
  · unfold totalSeconds
    rw [hdays]
    show total / 86400 * 86400 + total % 86400 / 3600 * 3600 + total % 86400 / 60 % 60 * 60
      + total % 86400 % 60 = total
    omega
  · rw [hdays]
    unfold split
    dsimp only
    split <;> omega

/-- There is no other split. -/
theorem Splits.unique (h : d.Splits total) (h' : d'.Splits total) : d = d' := by
  obtain ⟨⟨hhours, hminutes, hseconds, hsingle⟩, htotal, hweeks⟩ := h
  obtain ⟨⟨hhours', hminutes', hseconds', hsingle'⟩, htotal', hweeks'⟩ := h'
  have hday : secondsPerDay = 86400 := rfl
  unfold totalSeconds at htotal htotal'
  rw [hday] at htotal htotal'
  have hdays : d.wholeDays = d'.wholeDays := by omega
  rw [hdays, ← hweeks'] at hweeks
  unfold wholeDays at hdays
  obtain ⟨w, a, h, m, s⟩ := d
  obtain ⟨w', a', h', m', s'⟩ := d'
  dsimp only at *
  rw [Duration.mk.injEq]
  omega

theorem Proper.capped (h : d.Proper) : d.capped.Proper :=
  ⟨h.hours, h.minutes, h.seconds, h.single.imp (fun h => by simp [Duration.capped, h])
    (fun h => by simp [Duration.capped, h])⟩

/-- A span of less than 2 ^ 32 days has no part that is cut. -/
theorem capped_split (h : total < secondsPerDay * twoPow 32) :
    (split total).capped = split total := by
  have hday : secondsPerDay = 86400 := rfl
  have hbits : twoPow 32 = 4294967296 := rfl
  have hpart : maxPart = 4294967295 := rfl
  have hdays := wholeDays_split total
  rw [hday, hbits] at h
  rw [hday, wholeDays] at hdays
  have hweeks : (split total).weeks ≤ maxPart := by omega
  have hdays : (split total).days ≤ maxPart := by omega
  unfold capped
  rw [Nat.min_eq_left hweeks, Nat.min_eq_left hdays]

theorem ofSeconds_eq_capped (total : Int) : ofSeconds total = (split total.natAbs).capped :=
  rfl

theorem ofSeconds_eq_split {total : Int} (h : total.natAbs < secondsPerDay * twoPow 32) :
    ofSeconds total = split total.natAbs := by
  rw [ofSeconds_eq_capped, capped_split h]

theorem proper_ofSeconds (total : Int) : (ofSeconds total).Proper :=
  (splits_split total.natAbs).toProper.capped

/-! ## In 64 bits -/

/-- The sum of two numbers of 64 bits, if it is one. -/
def sum? (a b : UInt64) : Option UInt64 :=
  if a.toNat + b.toNat < twoPow 64 then some (a + b) else none

/-- The product of two numbers of 64 bits, if it is one. -/
def product? (a b : UInt64) : Option UInt64 :=
  if a.toNat * b.toNat < twoPow 64 then some (a * b) else none

/-- The difference of two numbers of 64 bits, if it is one. -/
def difference? (a b : UInt64) : Option UInt64 :=
  if b ≤ a then some (a - b) else none

/-- What is left of a number when so many times a unit are taken away. -/
def takeAway? (a count unit : UInt64) : Option UInt64 := do
  difference? a (← product? count unit)

/-- The weeks in whole days, if these are whole weeks. -/
def weeksOf (whole : UInt64) : UInt64 :=
  if whole % 7 = 0 then whole / 7 else 0

/-- The days in whole days, unless these are whole weeks. -/
def daysOf (whole : UInt64) : UInt64 :=
  if whole % 7 = 0 then 0 else whole

/-- The whole days again, of days and weeks. -/
def counted? (days weeks : UInt64) : Option UInt64 := do
  sum? days (← product? weeks 7)

/-- A number of 64 bits as a part. -/
def narrow (n : UInt64) : Nat :=
  min n.toNat maxPart

/-- A split span of seconds, computed in 64 bits; there is none if a step leaves the range. -/
def ofSeconds? (total : Int64) : Option Duration := do
  let seconds := total.abs.toUInt64
  let weeks := weeksOf (seconds / 86400)
  let days := daysOf (seconds / 86400)
  let inDay ← takeAway? seconds (← counted? days weeks) 86400
  let inHour ← takeAway? inDay (inDay / 3600) 3600
  let inMinute ← takeAway? inHour (inHour / 60) 60
  return ⟨narrow weeks, narrow days, narrow (inDay / 3600), narrow (inHour / 60), narrow inMinute⟩

section

variable {a b : UInt64}

theorem exists_sum (h : a.toNat + b.toNat < twoPow 64) :
    ∃ c, sum? a b = some c ∧ c.toNat = a.toNat + b.toNat :=
  ⟨a + b, if_pos h, by rw [UInt64.toNat_add]; exact Nat.mod_eq_of_lt h⟩

theorem exists_product (h : a.toNat * b.toNat < twoPow 64) :
    ∃ c, product? a b = some c ∧ c.toNat = a.toNat * b.toNat :=
  ⟨a * b, if_pos h, by rw [UInt64.toNat_mul]; exact Nat.mod_eq_of_lt h⟩

theorem exists_difference (h : b.toNat ≤ a.toNat) :
    ∃ c, difference? a b = some c ∧ c.toNat = a.toNat - b.toNat :=
  ⟨a - b, if_pos h, UInt64.toNat_sub_of_le a b h⟩

theorem exists_takeAway (a unit : UInt64) :
    ∃ c, takeAway? a (a / unit) unit = some c ∧ c.toNat = a.toNat % unit.toNat := by
  have hle : (a / unit).toNat * unit.toNat ≤ a.toNat := by
    rw [UInt64.toNat_div]
    exact Nat.div_mul_le_self _ _
  obtain ⟨c, hproduct, hc⟩ := exists_product (Nat.lt_of_le_of_lt hle a.toNat_lt)
  obtain ⟨d, hdifference, hd⟩ := exists_difference (hc ▸ hle)
  refine ⟨d, ?_, ?_⟩
  · rw [takeAway?, hproduct]
    exact hdifference
  · rw [hd, hc, UInt64.toNat_div, Nat.mod_eq_sub_div_mul]

theorem mod_seven_iff {whole : UInt64} : whole % 7 = 0 ↔ whole.toNat % 7 = 0 := by
  rw [← UInt64.toNat_inj, UInt64.toNat_mod]
  rfl

theorem toNat_weeksOf (whole : UInt64) :
    (weeksOf whole).toNat = if whole.toNat % 7 = 0 then whole.toNat / 7 else 0 := by
  unfold weeksOf
  split
  · rw [if_pos (mod_seven_iff.mp ‹_›), UInt64.toNat_div]
    rfl
  · rw [if_neg (mt mod_seven_iff.mpr ‹_›)]
    rfl

theorem toNat_daysOf (whole : UInt64) :
    (daysOf whole).toNat = if whole.toNat % 7 = 0 then 0 else whole.toNat := by
  unfold daysOf
  split
  · rw [if_pos (mod_seven_iff.mp ‹_›)]
    rfl
  · rw [if_neg (mt mod_seven_iff.mpr ‹_›)]

/-- Days and weeks together are the whole days that they were made of. -/
theorem counted?_eq (whole : UInt64) :
    counted? (daysOf whole) (weeksOf whole) = some whole := by
  have hlt := whole.toNat_lt
  have hweeks := toNat_weeksOf whole
  have hdays := toNat_daysOf whole
  have hseven : (7 : UInt64).toNat = 7 := rfl
  have hproduct : (weeksOf whole).toNat * (7 : UInt64).toNat ≤ whole.toNat := by
    rw [hseven, hweeks]
    split <;> omega
  obtain ⟨c, hc, hcn⟩ := exists_product (Nat.lt_of_le_of_lt hproduct hlt)
  have hsum : (daysOf whole).toNat + c.toNat = whole.toNat := by
    rw [hcn, hseven, hweeks, hdays]
    split <;> omega
  obtain ⟨d, hd, hdn⟩ := exists_sum (Nat.lt_of_le_of_lt (Nat.le_of_eq hsum) hlt)
  rw [counted?, hc]
  show sum? (daysOf whole) c = some whole
  rw [hd, UInt64.toNat_inj.mp (hdn.trans hsum)]

end

/-- The magnitude of an integer of 64 bits is a number of 64 bits, that of the least one, too. -/
theorem toNat_abs (n : Int64) : n.abs.toUInt64.toNat = n.toInt.natAbs := by
  show n.abs.toBitVec.toNat = n.toBitVec.toInt.natAbs
  rw [Int64.toBitVec_abs, BitVec.toNat_abs, BitVec.toInt_eq_msb_cond]
  have hlt := n.toBitVec.isLt
  split <;> omega

theorem narrow_of_le {n : UInt64} (h : n.toNat ≤ maxPart) : narrow n = n.toNat :=
  Nat.min_eq_left h

/-- No step leaves the range, since each takes away no more than there is. -/
theorem ofSeconds?_eq (total : Int64) : ofSeconds? total = some (ofSeconds total.toInt) := by
  have hpart : maxPart = 4294967295 := rfl
  have hseconds := toNat_abs total
  unfold ofSeconds?
  dsimp only
  generalize total.abs.toUInt64 = seconds at hseconds
  obtain ⟨inDay, hinDay, hday⟩ := exists_takeAway seconds 86400
  obtain ⟨inHour, hinHour, hhour⟩ := exists_takeAway inDay 3600
  obtain ⟨inMinute, hinMinute, hminute⟩ := exists_takeAway inHour 60
  have hstep : ∀ {x : Option UInt64} {a : UInt64} {f : UInt64 → Option Duration},
      x = some a → x >>= f = f a := fun hx => hx ▸ rfl
  rw [hstep (counted?_eq _), hstep hinDay, hstep hinHour, hstep hinMinute]
  have hhours : (inDay / 3600).toNat = inDay.toNat / 3600 := UInt64.toNat_div ..
  have hminutes : (inHour / 60).toNat = inHour.toNat / 60 := UInt64.toNat_div ..
  have hday : inDay.toNat = total.toInt.natAbs % 86400 := hseconds ▸ hday
  have hhour : inHour.toNat = inDay.toNat % 3600 := hhour
  have hminute : inMinute.toNat = inHour.toNat % 60 := hminute
  -- Only weeks and days can be too large for a part; of the others only the values are asked.
  rw [narrow_of_le (n := inDay / 3600) (by omega), narrow_of_le (n := inHour / 60) (by omega),
    narrow_of_le (n := inMinute) (by omega), narrow, narrow, toNat_weeksOf, toNat_daysOf,
    UInt64.toNat_div, hseconds, hhours, hminutes]
  refine congrArg some (Duration.mk.injEq .. ▸ ⟨rfl, rfl, ?_, ?_, ?_⟩)
  · show _ = total.toInt.natAbs % 86400 / 3600
    omega
  · show _ = total.toInt.natAbs % 86400 / 60 % 60
    omega
  · show _ = total.toInt.natAbs % 86400 % 60
    omega

end Duration

/-! ## Between instants -/

namespace Instant

/-- Whether an instant has a date in UTC and is inside a second, which may be a leap second. -/
structure Representable (i : Instant) : Prop where
  first : Date.minDayNumber ≤ i.utcSeconds / secondsPerDay
  last : i.utcSeconds / secondsPerDay ≤ Date.maxDayNumber
  nanos : i.time.nanos < 2 * nanosPerSecond

instance (i : Instant) : Decidable i.Representable :=
  decidable_of_iff (Date.minDayNumber ≤ i.utcSeconds / secondsPerDay
      ∧ i.utcSeconds / secondsPerDay ≤ Date.maxDayNumber ∧ i.time.nanos < 2 * nanosPerSecond)
    ⟨fun ⟨h, h', h''⟩ => ⟨h, h', h''⟩, fun ⟨h, h', h''⟩ => ⟨h, h', h''⟩⟩

/-- What a text denotes is such an instant. -/
theorem representable_of_parse {text : String} {i : Instant} (h : Instant.parse text = .ok i) :
    i.Representable := by
  obtain ⟨hfirst, hlast⟩ := utcDay_of_parse h
  refine ⟨hfirst, hlast, ?_⟩
  obtain ⟨⟨parts, time, offset⟩, hparts, h⟩ := bind_ok_iff.mp h
  obtain ⟨date, -, h⟩ := bind_ok_iff.mp h
  split at h
  · obtain rfl := eq_of_check h
    exact (gives_instantParts gives_nanos).of_all hparts
  · exact nomatch h

theorem leapCorrection_swap (a b : Instant) : leapCorrection a b = -leapCorrection b a := by
  unfold leapCorrection
  grind

/-- The time back is the time forth. -/
theorem nanosSince_swap (a b : Instant) : a.nanosSince b = -b.nanosSince a := by
  have hsecond : (nanosPerSecond : Int) = 1000000000 := rfl
  unfold nanosSince
  rw [leapCorrection_swap, hsecond]
  omega

theorem secondsSince_swap (a b : Instant) : a.secondsSince b = -b.secondsSince a := by
  rw [secondsSince, secondsSince, nanosSince_swap, Int.neg_tdiv]

theorem natAbs_leapCorrection_le (a b : Instant) : (leapCorrection a b).natAbs ≤ 1 := by
  unfold leapCorrection
  grind

/-- The seconds between any two instants are far fewer than those of 2 ^ 32 days. -/
theorem natAbs_secondsSince_lt {a b : Instant} (ha : a.Representable) (hb : b.Representable) :
    (a.secondsSince b).natAbs < secondsPerDay * Duration.maxPart := by
  have hfirst : Date.minDayNumber = -96465292 := by decide +kernel
  have hlast : Date.maxDayNumber = 95026236 := by decide +kernel
  have hsecond : nanosPerSecond = 1000000000 := rfl
  have hday : secondsPerDay = 86400 := rfl
  have hpart : Duration.maxPart = 4294967295 := rfl
  have hleap := natAbs_leapCorrection_le a b
  obtain ⟨hfirstA, hlastA, hnanosA⟩ := ha
  obtain ⟨hfirstB, hlastB, hnanosB⟩ := hb
  rw [hfirst, hday] at hfirstA hfirstB
  rw [hlast, hday] at hlastA hlastB
  rw [hsecond] at hnanosA hnanosB
  have hnanos : (a.nanosSince b).natAbs < 86400 * 4294967295 * 1000000000 := by
    unfold nanosSince
    rw [hsecond]
    omega
  rw [secondsSince, Int.natAbs_tdiv, hsecond, hday, hpart]
  exact Nat.div_lt_of_lt_mul (Nat.mul_comm .. ▸ hnanos)

end Instant

namespace Duration

/-- A span between instants has no part that is cut, nor one that is as large as that. -/
theorem between_eq_split {a b : Instant} (ha : a.Representable) (hb : b.Representable) :
    between a b = split (b.secondsSince a).natAbs
      ∧ (between a b).weeks < maxPart ∧ (between a b).days < maxPart := by
  have hpart : maxPart = 4294967295 := rfl
  have hday : secondsPerDay = 86400 := rfl
  have hbits : twoPow 32 = 4294967296 := rfl
  have hlt := Instant.natAbs_secondsSince_lt hb ha
  rw [hday, hpart] at hlt
  have heq : between a b = split (b.secondsSince a).natAbs :=
    ofSeconds_eq_split (by rw [hday, hbits]; omega)
  have hdays := wholeDays_split (b.secondsSince a).natAbs
  rw [wholeDays, hday] at hdays
  rw [heq]
  exact ⟨rfl, by omega, by omega⟩

theorem between_comm (a b : Instant) : between a b = between b a := by
  rw [between, between, Instant.secondsSince_swap, ofSeconds_eq_capped, Int.natAbs_neg,
    ofSeconds_eq_capped]

/-! ## Text -/

/-- A number can be read off the front of a text if no digit follows it. -/
theorem digitChars_append_inj {n n' : Nat} {c : Char} {rest rest' : List Char}
    (hc : c.isDigit = false)
    (h : digitChars n ++ c :: rest = digitChars n' ++ c :: rest') : n = n' ∧ rest = rest' := by
  have hdigits : ∀ n, ∀ d ∈ digitChars n, d.isDigit = true := fun n _ hd =>
    Nat.isDigit_of_mem_toDigits (by decide) (by decide) hd
  have htake : ∀ n rest, (digitChars n ++ c :: rest).takeWhile Char.isDigit = digitChars n := by
    intro n rest
    rw [List.takeWhile_append_of_pos (hdigits n), List.takeWhile_cons_of_neg (by simp [hc]),
      List.append_nil]
  have hsame : digitChars n = digitChars n' := by rw [← htake n rest, h, htake]
  refine ⟨digitChars_injective hsame, ?_⟩
  rw [hsame] at h
  exact (List.cons.inj (List.append_cancel_left h)).2

theorem toList_text (d : Duration) : d.text.toList
    = digitChars d.weeks ++ 'w' :: (digitChars d.days ++ 'd' :: (digitChars d.hours ++ 'h' ::
      (digitChars d.minutes ++ 'm' :: (digitChars d.seconds ++ ['s'])))) := by
  simp [text, natText]

/-- Every part can be read off the text. -/
theorem text_injective {d d' : Duration} (h : d.text = d'.text) : d = d' := by
  have h := congrArg String.toList h
  rw [toList_text, toList_text] at h
  obtain ⟨hweeks, h⟩ := digitChars_append_inj (by decide) h
  obtain ⟨hdays, h⟩ := digitChars_append_inj (by decide) h
  obtain ⟨hhours, h⟩ := digitChars_append_inj (by decide) h
  obtain ⟨hminutes, h⟩ := digitChars_append_inj (by decide) h
  obtain ⟨hseconds, -⟩ := digitChars_append_inj (by decide) h
  exact Duration.mk.injEq .. ▸ ⟨hweeks, hdays, hhours, hminutes, hseconds⟩

/-! ## All spans -/

/-- **Durations split spans exactly.** Of every total of 64 bits the split is computed without a
step out of range, and is the only one there is, but for weeks or days beyond the largest part,
which are cut to that; totals of less than 2 ^ 32 days have none. Between two instants no part comes
near it, and it makes no difference which of them is the first. The text tells the duration, and so
the magnitude of every total below that bound. -/
theorem ofSeconds_splits_exactly :
    (∀ total : Int64, ofSeconds? total = some (ofSeconds total.toInt)
        ∧ (ofSeconds total.toInt).Proper
        ∧ ∃ d : Duration, d.Splits total.toInt.natAbs
          ∧ (∀ d' : Duration, d'.Splits total.toInt.natAbs → d' = d)
          ∧ ofSeconds total.toInt = d.capped
          ∧ (total.toInt.natAbs < secondsPerDay * twoPow 32 → ofSeconds total.toInt = d))
      ∧ (∀ a b : Instant, a.Representable → b.Representable →
        (between a b).Splits (b.secondsSince a).natAbs ∧ (between a b).weeks < maxPart
          ∧ (between a b).days < maxPart ∧ between a b = between b a)
      ∧ (∀ d d' : Duration, d.text = d'.text → d = d')
      ∧ ∀ total total' : Int, total.natAbs < secondsPerDay * twoPow 32 →
        total'.natAbs < secondsPerDay * twoPow 32 →
          (ofSeconds total).text = (ofSeconds total').text → total.natAbs = total'.natAbs := by
  refine ⟨fun total => ⟨ofSeconds?_eq total, proper_ofSeconds _, split total.toInt.natAbs,
    splits_split _, fun d' hd' => hd'.unique (splits_split _), ofSeconds_eq_capped _,
    ofSeconds_eq_split⟩, fun a b ha hb => ?_, fun d d' => text_injective, ?_⟩
  · obtain ⟨hsplit, hweeks, hdays⟩ := between_eq_split ha hb
    exact ⟨hsplit ▸ splits_split _, hweeks, hdays, between_comm a b⟩
  · intro total total' h h' htext
    have heq := text_injective htext
    rw [ofSeconds_eq_split h, ofSeconds_eq_split h'] at heq
    rw [← (splits_split total.natAbs).total, heq, (splits_split total'.natAbs).total]

/-- The first instant of all. -/
private def dawn : Instant :=
  ⟨⟨-262143, 1, 1⟩, ⟨0, 0, 0, 0⟩, 0⟩

/-- The last instant of all, in a leap second. -/
private def dusk : Instant :=
  ⟨⟨262142, 12, 31⟩, ⟨23, 59, 59, 1999999999⟩, 0⟩

theorem ofSeconds_splits_exactly_ages :
    ofSeconds? Int64.minValue = some ⟨0, maxPart, 15, 30, 8⟩
      ∧ (604800 : Int).natAbs < secondsPerDay * twoPow 32
      ∧ (⟨1, 0, 0, 0, 0⟩ : Duration).Splits 604800
      ∧ dawn.Representable ∧ dusk.Representable
      ∧ (⟨0, 191491529, 0, 0, 0⟩ : Duration).Splits (dusk.secondsSince dawn).natAbs
      ∧ between dawn dusk = between dusk dawn
      ∧ (ofSeconds 604800).text = "1w0d0h0m0s"
      ∧ (ofSeconds 604800).text = (ofSeconds (-604800)).text
      ∧ (604800 : Int).natAbs = (-604800 : Int).natAbs := by
  obtain ⟨htotals, hspans, -, htexts⟩ := ofSeconds_splits_exactly
  have hbound : (604800 : Int).natAbs < secondsPerDay * twoPow 32 := by decide +kernel
  have hdawn : dawn.Representable := by decide +kernel
  have hdusk : dusk.Representable := by decide +kernel
  have hsame : (ofSeconds 604800).text = (ofSeconds (-604800)).text := by decide +kernel
  have hleast : ofSeconds Int64.minValue.toInt = ⟨0, maxPart, 15, 30, 8⟩ := by decide +kernel
  have hweek : ofSeconds (604800 : Int64).toInt = ⟨1, 0, 0, 0, 0⟩ := by decide +kernel
  have hages : between dawn dusk = ⟨0, 191491529, 0, 0, 0⟩ := by decide +kernel
  obtain ⟨-, -, d, hsplit, -, -, hsmall⟩ := htotals 604800
  obtain ⟨hspan, -, -, hback⟩ := hspans dawn dusk hdawn hdusk
  have hd : d = ⟨1, 0, 0, 0, 0⟩ := (hsmall hbound).symm.trans hweek
  refine ⟨hleast ▸ (htotals Int64.minValue).1, hbound, hd ▸ hsplit, hdawn, hdusk, hages ▸ hspan,
    hback, by decide +kernel, hsame, ?_⟩
  exact htexts 604800 (-604800) hbound (by decide +kernel) hsame

end Duration

end Daybook.Calendar
