import Daybook.Calendar.Reader
import Daybook.Proofs.Calendar.Days
import Daybook.Proofs.Success

/-!
# Instants and local days

An instant that a text denotes has a date, a time of that day, and a distance from UTC of less than
a day (`valid_of_parse`). The date of such an instant is told by its seconds in UTC and that
distance alone (`dayNumber_date`), so the dates of two instants stand in the order of their local
days (`le_date_iff`). The instants themselves stand in the order of their seconds in UTC, which is
another order as soon as the distances differ.
-/

namespace Daybook.Calendar

open Daybook.Number

/-! ## Scans -/

/-- Whether all that a scan gives has a property, wherever it starts. -/
def Scan.Gives {α : Type} (s : Scan α) (P : α → Prop) : Prop :=
  ∀ cs a rest, s.run cs = .ok (a, rest) → P a

namespace Scan.Gives

variable {α β : Type} {P : α → Prop} {Q : β → Prop}

theorem pure {a : α} (h : P a) : Scan.Gives (pure a) P := by
  intro cs b rest hb
  obtain ⟨rfl, -⟩ := Prod.mk.inj (Except.ok.inj hb)
  exact h

theorem fail {e : Unreadable} : Scan.Gives (Scan.fail e : Scan α) P :=
  fun _ _ _ h => nomatch h

theorem bind {s : Scan α} {f : α → Scan β} (hs : Scan.Gives s P)
    (hf : ∀ a, P a → Scan.Gives (f a) Q) : Scan.Gives (s >>= f) Q := by
  intro cs b rest hb
  rw [StateT.run_bind] at hb
  obtain ⟨⟨a, rest₁⟩, ha, hb⟩ := bind_ok_iff.mp hb
  exact hf a (hs cs a rest₁ ha) rest₁ b rest hb

/-- What comes first need not be known. -/
theorem after {s : Scan α} {f : α → Scan β} (hf : ∀ a, Scan.Gives (f a) Q) :
    Scan.Gives (s >>= f) Q :=
  bind (P := fun _ => True) (fun _ _ _ _ => trivial) fun a _ => hf a

/-- What a scan gives of a whole text is what it gives. -/
theorem of_all {s : Scan α} (h : Scan.Gives s P) {text : String} {a : α} (ha : s.all text = .ok a) :
    P a := by
  obtain ⟨⟨value, rest⟩, hrun, hvalue⟩ := bind_ok_iff.mp ha
  dsimp only at hvalue
  split at hvalue
  · obtain rfl := Except.ok.inj hvalue
    exact h _ _ _ hrun
  · exact nomatch hvalue

end Scan.Gives

theorem gives_twoDigits (low high : Nat) : Scan.Gives (Scan.twoDigits low high) (· ≤ high) := by
  unfold Scan.twoDigits
  refine .after fun _ => .after fun _ => ?_
  dsimp only
  split
  · rename_i h
    exact .pure h.2
  · exact .fail

theorem gives_timeOfDay : Scan.Gives Scan.timeOfDay (·.seconds < secondsPerDay) := by
  unfold Scan.timeOfDay
  refine (gives_twoDigits 0 23).bind fun h hh => .after fun _ => .after fun _ => ?_
  refine (gives_twoDigits 0 59).bind fun m hm => .after fun _ => .after fun _ => ?_
  refine (gives_twoDigits 0 60).bind fun s hs => .after fun n => .after fun _ => .pure ?_
  have hday : secondsPerDay = 86400 := rfl
  split
  · show h * 3600 + m * 60 + 59 < secondsPerDay
    omega
  · show h * 3600 + m * 60 + s < secondsPerDay
    omega

theorem number_lt {ds : List Char} (h : ∀ c ∈ ds, c.isDigit = true) :
    Scan.number ds < tenPow ds.length := by
  have hfold : ∀ n,
      ds.foldl (fun n c => n * 10 + (c.toNat - 48)) n < (n + 1) * tenPow ds.length := by
    induction ds with
    | nil =>
        intro n
        show n < (n + 1) * 1
        omega
    | cons c ds ih =>
        intro n
        have hc : c.toNat ≤ 57 := by
          have hdigit := h c List.mem_cons_self
          simp only [Char.isDigit, Bool.and_eq_true, decide_eq_true_eq] at hdigit
          exact hdigit.2
        have hstep := ih (fun d hd => h d (List.mem_cons_of_mem c hd)) (n * 10 + (c.toNat - 48))
        refine Nat.lt_of_lt_of_le hstep ?_
        rw [List.length_cons, tenPow_succ, ← Nat.mul_assoc]
        exact Nat.mul_le_mul_right _ (by omega)
  have hzero := hfold 0
  rwa [Nat.zero_add, Nat.one_mul] at hzero

theorem gives_digits (width : Nat) :
    Scan.Gives (Scan.digits (some width))
      (fun ds => ds.length ≤ width ∧ ∀ c ∈ ds, c.isDigit = true) := by
  unfold Scan.digits
  refine .after fun rest => ?_
  split
  · exact .fail
  · dsimp only
    split
    · exact .fail
    · split
      · exact .fail
      · refine .after fun _ => .pure ⟨List.length_take_le _ _, fun c hc => ?_⟩
        exact List.all_eq_true.mp List.all_takeWhile c (List.mem_of_mem_take hc)

theorem gives_fraction : Scan.Gives Scan.fraction (· < nanosPerSecond) := by
  unfold Scan.fraction
  refine .after fun rest => ?_
  split
  · refine .after fun _ => (gives_digits 9).bind fun ds hds => .after fun _ => .pure ?_
    obtain ⟨hlength, hdigits⟩ := hds
    calc Scan.number ds * tenPow (9 - ds.length)
        < tenPow ds.length * tenPow (9 - ds.length) :=
          Nat.mul_lt_mul_of_pos_right (number_lt hdigits) (Nat.pow_pos (by decide))
      _ = tenPow 9 := by rw [← tenPow_add, Nat.add_sub_of_le hlength]
  · exact .pure (by decide)

theorem gives_nanos : Scan.Gives Scan.timeOfDay (·.nanos < 2 * nanosPerSecond) := by
  unfold Scan.timeOfDay
  refine .after fun h => .after fun _ => .after fun _ => ?_
  refine .after fun m => .after fun _ => .after fun _ => ?_
  refine .after fun s => gives_fraction.bind fun n hn => .after fun _ => .pure ?_
  split
  · show nanosPerSecond + n < 2 * nanosPerSecond
    omega
  · show n < 2 * nanosPerSecond
    omega

theorem gives_instantParts {P : TimeOfDay → Prop} (h : Scan.Gives Scan.timeOfDay P) :
    Scan.Gives Scan.instantParts (fun parts => P parts.2.1) := by
  unfold Scan.instantParts
  refine .after fun parts => .after fun rest => ?_
  have hbehind : Scan.Gives
      (do let time ← Scan.timeOfDay; return (parts, time, ← Scan.offset))
      (fun parts : (Int × Nat × Nat) × TimeOfDay × Int => P parts.2.1) :=
    h.bind fun time htime => .after fun _ => .pure htime
  cases rest with
  | nil => exact .after fun _ => hbehind
  | cons c rest =>
      dsimp only
      split
      · exact .after fun _ => hbehind
      · exact .after fun _ => hbehind

/-! ## Validity -/

/-- Whether an instant has a date and a time of that day, less than a day away from UTC. -/
structure Instant.Valid (i : Instant) : Prop where
  date : i.date.isValid = true
  time : i.time.seconds < secondsPerDay
  offset : i.offset.natAbs < secondsPerDay

theorem isValid_of_dateOfParts {parts : Int × Nat × Nat} {d : Date}
    (h : dateOfParts parts = .ok d) : d.isValid = true := by
  unfold dateOfParts Date.ofParts? at h
  split at h
  · rename_i d' hd'
    obtain rfl := Except.ok.inj h
    split at hd'
    · rename_i hvalid
      obtain rfl := Option.some.inj hd'
      exact hvalid
    · exact nomatch hd'
  · exact nomatch h

namespace Instant

theorem eq_of_check {i j : Instant} (h : i.check = .ok j) : j = i := by
  unfold check at h
  dsimp only at h
  split at h
  · exact (Except.ok.inj h).symm
  · exact nomatch h

/-- A text denotes valid instants only. -/
theorem valid_of_parse {text : String} {i : Instant} (h : Instant.parse text = .ok i) :
    i.Valid := by
  obtain ⟨⟨parts, time, offset⟩, hparts, h⟩ := bind_ok_iff.mp h
  obtain ⟨date, hdate, h⟩ := bind_ok_iff.mp h
  have htime := (gives_instantParts gives_timeOfDay).of_all hparts
  have hvalid : date.isValid = true := isValid_of_dateOfParts hdate
  split at h
  · rename_i hoffset
    have hi : i = ⟨date, time, offset⟩ := eq_of_check h
    rw [hi]
    exact ⟨hvalid, htime, hoffset⟩
  · exact nomatch h

/-! ## Local days -/

/-- The number of the day that the local clock has. -/
def localDay (i : Instant) : Int :=
  (i.utcSeconds + i.offset) / secondsPerDay

theorem dayNumber_date {i : Instant} (h : i.Valid) : i.date.dayNumber = i.localDay := by
  have htime : i.time.seconds < 86400 := h.time
  have hday : (secondsPerDay : Int) = 86400 := rfl
  unfold localDay utcSeconds
  rw [hday]
  omega

/-- The dates of instants stand in the order of their local days. -/
theorem le_date_iff {a b : Instant} (ha : a.Valid) (hb : b.Valid) :
    a.date.le b.date = true ↔ a.localDay ≤ b.localDay := by
  rw [Date.le_iff_dayNumber_le ha.date hb.date, dayNumber_date ha, dayNumber_date hb]

theorem utcSeconds_le {a b : Instant} (h : a.le b = true) : a.utcSeconds ≤ b.utcSeconds := by
  have hlt : ¬b.utcSeconds < a.utcSeconds := by
    intro hlt
    simp [le, lt, hlt] at h
  exact Int.not_lt.mp hlt

end Instant

end Daybook.Calendar
