import Daybook.Proofs.Json.Reads

/-!
# Reading numbers

A number is read the same wherever it stands, as long as what follows does not go on it
(`local_readNumber`): its parts only look at what they read and at the character behind it.
-/

namespace Daybook.Json

open Reader Daybook.Number

/-! ## One character -/

theorem Cursor.rest_next {c : Cursor} {x : Char} {xs : List Char} (h : c.rest = x :: xs) :
    c.next.rest = xs := by
  unfold Cursor.next
  rw [h]

theorem Reader.peek_of_rest {c : Cursor} {text : List Char} (h : c.rest = text) :
    (peek : Reader (Option Char)) c = .done text.head? c := by
  rw [← h]
  rfl

/-! ## Readers that look no further -/

/-- Whether a reader that succeeds from a cursor on leaves a part of what it was given, and does the
same if more follows that does not go on a number. -/
def Reader.LocalAt {α : Type} (r : Reader α) (c : Cursor) : Prop :=
  ∀ a behind, r c = .done a behind →
    behind.rest <:+ c.rest ∧ ∀ c' rest, c'.At (c.rest ++ rest) → Ends rest →
      ∃ behind', r c' = .done a behind' ∧ behind'.At (behind.rest ++ rest)

namespace Reader.LocalAt

variable {α β : Type} {r : Reader α} {f : α → Reader β} {c : Cursor}

theorem done (a : α) : LocalAt (Reader.done a) c := by
  intro b behind h
  obtain ⟨rfl, rfl⟩ := Outcome.done.inj h
  exact ⟨List.suffix_refl _, fun c' rest hat _ => ⟨c', rfl, hat⟩⟩

theorem failHere {problem : Problem} : LocalAt (Reader.failHere problem : Reader α) c :=
  fun _ _ h => nomatch h

theorem failNext {problem : Problem} : LocalAt (Reader.failNext problem : Reader α) c :=
  fun _ _ h => nomatch h

theorem bind (hr : LocalAt r c) (hf : ∀ a mid, LocalAt (f a) mid) : LocalAt (r >>= f) c := by
  intro b behind h
  obtain ⟨a, mid, hdone, h⟩ := bind_eq_done h
  obtain ⟨hsuffix, hlocal⟩ := hr a mid hdone
  obtain ⟨hsuffix', hlocal'⟩ := hf a mid b behind h
  refine ⟨hsuffix'.trans hsuffix, fun c' rest hat hrest => ?_⟩
  obtain ⟨mid', hdone', hmid'⟩ := hlocal c' rest hat hrest
  obtain ⟨behind', hdone'', hbehind'⟩ := hlocal' mid' rest hmid' hrest
  exact ⟨behind', (bind_of_done hdone').trans hdone'', hbehind'⟩

/-- A reader may look at the next character if the end of the text means the same to it as what does
not go on a number. -/
theorem peek {f : Option Char → Reader β}
    (hsome : ∀ x, c.rest.head? = some x → LocalAt (f (some x)) c) (hnone : LocalAt (f none) c)
    (hsame : ∀ x, x.isDigit = false ∧ x ≠ '.' ∧ x ≠ 'e' ∧ x ≠ 'E' → f (some x) = f none) :
    LocalAt (Reader.peek >>= f) c := by
  intro b behind h
  have h : f c.rest.head? c = .done b behind := h
  cases hc : c.rest.head? with
  | some x =>
      rw [hc] at h
      obtain ⟨hsuffix, hlocal⟩ := hsome x hc b behind h
      refine ⟨hsuffix, fun c' rest hat hrest => ?_⟩
      obtain ⟨behind', hdone, hbehind'⟩ := hlocal c' rest hat hrest
      refine ⟨behind', ?_, hbehind'⟩
      show f c'.rest.head? c' = _
      rw [hat.rest, List.head?_append, hc]
      exact hdone
  | none =>
      rw [hc] at h
      obtain ⟨hsuffix, hlocal⟩ := hnone b behind h
      refine ⟨hsuffix, fun c' rest hat hrest => ?_⟩
      obtain ⟨behind', hdone, hbehind'⟩ := hlocal c' rest hat hrest
      refine ⟨behind', ?_, hbehind'⟩
      show f c'.rest.head? c' = _
      rw [hat.rest, List.head?_append, hc, Option.none_or]
      cases hx : rest.head? with
      | none => exact hdone
      | some x =>
          rw [hsame x (hrest x hx)]
          exact hdone

/-- A reader that cannot do without a next character may look at it. -/
theorem peekSome {f : Option Char → Reader β}
    (hsome : ∀ x, c.rest.head? = some x → LocalAt (f (some x)) c)
    (hnone : c.rest.head? = none → ∀ b behind, f none c ≠ .done b behind) :
    LocalAt (Reader.peek >>= f) c := by
  intro b behind h
  have h : f c.rest.head? c = .done b behind := h
  cases hc : c.rest.head? with
  | some x =>
      rw [hc] at h
      obtain ⟨hsuffix, hlocal⟩ := hsome x hc b behind h
      refine ⟨hsuffix, fun c' rest hat hrest => ?_⟩
      obtain ⟨behind', hdone, hbehind'⟩ := hlocal c' rest hat hrest
      refine ⟨behind', ?_, hbehind'⟩
      show f c'.rest.head? c' = _
      rw [hat.rest, List.head?_append, hc]
      exact hdone
  | none =>
      rw [hc] at h
      exact absurd h (hnone hc b behind)

/-- A reader may note where it is, if that does not matter for what it succeeds with. -/
theorem here {f : Cursor → Reader β} (hf : LocalAt (f c) c)
    (hsame : ∀ start start' mid b behind, f start mid = .done b behind →
      f start' mid = .done b behind) :
    LocalAt ((fun c => .done c c : Reader Cursor) >>= f) c := by
  intro b behind h
  obtain ⟨hsuffix, hlocal⟩ := hf b behind h
  refine ⟨hsuffix, fun c' rest hat hrest => ?_⟩
  obtain ⟨behind', hdone, hbehind'⟩ := hlocal c' rest hat hrest
  exact ⟨behind', hsame _ _ _ _ _ hdone, hbehind'⟩

/-- Moving over a character that is there. -/
theorem skip {x : Char} (h : c.rest.head? = some x) : LocalAt Reader.skip c := by
  obtain ⟨xs, hc⟩ := List.head?_eq_some_iff.mp h
  intro u behind hdone
  obtain ⟨-, rfl⟩ := Outcome.done.inj hdone
  rw [hc, Cursor.rest_next hc]
  refine ⟨List.suffix_cons x xs, fun c' rest hat _ => ⟨c'.next, rfl, ?_⟩⟩
  exact Cursor.At.next hat

end Reader.LocalAt

/-! ## Parts of a number -/

theorem rest_skipWhile (p : Char → Bool) (text : List Char) (place : Place) (size : Nat) :
    (Cursor.skipWhile p text place size).rest = text.dropWhile p := by
  induction text generalizing place with
  | nil => rfl
  | cons x xs ih =>
      rw [Cursor.skipWhile, List.dropWhile_cons]
      split
      · exact ih _
      · rfl

theorem size_skipWhile (p : Char → Bool) (text : List Char) (place : Place) (size : Nat) :
    (Cursor.skipWhile p text place size).size = size := by
  induction text generalizing place with
  | nil => rfl
  | cons x xs ih =>
      rw [Cursor.skipWhile]
      split
      · exact ih _
      · rfl

/-- The digits at the front of a text end where the text does. -/
theorem digits_append {rest : List Char} (h : Ends rest) : ∀ text : List Char,
    (text ++ rest).takeWhile Char.isDigit = text.takeWhile Char.isDigit
      ∧ (text ++ rest).dropWhile Char.isDigit = text.dropWhile Char.isDigit ++ rest
  | [] => by
      cases rest with
      | nil => exact ⟨rfl, rfl⟩
      | cons x xs =>
          have hx := (h x rfl).1
          exact ⟨List.takeWhile_cons_of_neg (by simp [hx]),
            List.dropWhile_cons_of_neg (by simp [hx])⟩
  | x :: text => by
      obtain ⟨htake, hdrop⟩ := digits_append h text
      rw [List.cons_append, List.takeWhile_cons, List.dropWhile_cons, List.takeWhile_cons,
        List.dropWhile_cons, htake, hdrop]
      cases x.isDigit <;> exact ⟨rfl, rfl⟩

variable {c : Cursor}

/-- A digit that is wanted is missing. -/
theorem wantDigit_ne_done {α : Type} {a : α} {behind : Cursor} :
    (wantDigit : Reader α) c ≠ .done a behind := by
  intro h
  obtain ⟨next, mid, -, h⟩ := bind_eq_done h
  cases next with
  | none => exact nomatch h
  | some x => exact nomatch h

theorem local_readDigits : LocalAt (readDigits wantDigit) c := by
  intro ds behind h
  unfold readDigits Cursor.digits at h
  cases hds : c.rest.takeWhile Char.isDigit with
  | nil =>
      rw [hds] at h
      exact absurd h wantDigit_ne_done
  | cons d ds' =>
      rw [hds] at h
      obtain ⟨rfl, rfl⟩ := Outcome.done.inj h
      rw [rest_skipWhile]
      refine ⟨List.dropWhile_suffix _, fun c' rest hat hrest => ?_⟩
      obtain ⟨htake, hdrop⟩ := digits_append hrest c.rest
      refine ⟨Cursor.skipWhile Char.isDigit c'.rest c'.place c'.size, ?_, ?_, ?_⟩
      · unfold readDigits Cursor.digits
        rw [hat.rest, htake, hds]
      · rw [rest_skipWhile, hat.rest, hdrop]
      · rw [size_skipWhile, ← hdrop]
        exact Nat.le_trans (List.dropWhile_suffix _).length_le hat.fits

theorem local_readWhole : LocalAt readWhole c := by
  unfold readWhole
  refine .peek (fun x hx => ?_) local_readDigits fun x hx => ?_
  · split
    · refine (LocalAt.skip hx).bind fun _ mid => .peek (fun y _ => ?_) (.done _) fun y hy => ?_
      · dsimp only
        split
        · exact .failNext
        · exact .done _
      · dsimp only
        rw [if_neg (by simp [hy.1])]
    · exact local_readDigits
  · split
    · rename_i h
      obtain rfl := Option.some.inj h
      exact absurd hx.1 (by decide)
    · rfl

/-- What the digits of an exponent come to, given the sign before them and where they begin. -/
def exponentOf (isZero : Bool) (sign : Option Char) (start : Cursor) (ds : List Char) :
    Reader (Option Int) :=
  match digitsUntilTooLarge 0 0 ds with
  | some used =>
    if !isZero && sign != some '-' then
      fun _ => .failed ⟨.numberOutOfRange, start.place.advance start.rest used⟩
    else done none
  | none =>
    let n : Int := decimalNumber ds
    done (some (if sign == some '-' then -n else n))

theorem readExponent_eq (isZero : Bool) :
    readExponent isZero = (do
      let sign ← peek
      match sign with
      | some '+' => skip
      | some '-' => skip
      | _ => done ()
      let start : Cursor ← fun c => .done c c
      exponentOf isZero sign start (← readDigits wantDigit)) :=
  rfl

/-- Where an exponent begins only matters if it is too large. -/
theorem exponentOf_cases (isZero : Bool) (sign : Option Char) (ds : List Char) :
    (∃ e, ∀ start, exponentOf isZero sign start ds = done e)
      ∨ ∀ start c, ∃ fault, exponentOf isZero sign start ds c = .failed fault := by
  unfold exponentOf
  cases digitsUntilTooLarge 0 0 ds with
  | none => exact .inl ⟨_, fun _ => rfl⟩
  | some used =>
      cases !isZero && sign != some '-' with
      | true => exact .inr fun start c => ⟨_, rfl⟩
      | false => exact .inl ⟨none, fun start => rfl⟩

theorem local_exponent (isZero : Bool) (sign : Option Char) :
    LocalAt (do
      let start : Cursor ← fun c => .done c c
      exponentOf isZero sign start (← readDigits wantDigit)) c := by
  -- the place of the exponent is kept for the fault only, so another one will do as well
  refine .here (local_readDigits.bind fun ds mid => ?_) fun start start' mid b behind h => ?_
  · rcases exponentOf_cases isZero sign ds with ⟨e, he⟩ | hfailed
    · rw [he]
      exact .done e
    · intro b behind h
      obtain ⟨fault, hfault⟩ := hfailed c mid
      exact nomatch hfault.symm.trans h
  · obtain ⟨ds, mid', hds, h⟩ := bind_eq_done h
    refine (bind_of_done hds).trans ?_
    rcases exponentOf_cases isZero sign ds with ⟨e, he⟩ | hfailed
    · rw [he] at h ⊢
      exact h
    · obtain ⟨fault, hfault⟩ := hfailed start mid'
      exact nomatch hfault.symm.trans h

theorem local_readExponent (isZero : Bool) : LocalAt (readExponent isZero) c := by
  rw [readExponent_eq]
  refine .peekSome (fun x hx => ?_) fun hend b behind h => ?_
  · split
    · exact (LocalAt.skip hx).bind fun _ _ => local_exponent isZero _
    · exact (LocalAt.skip hx).bind fun _ _ => local_exponent isZero _
    · exact LocalAt.bind (.done ()) fun _ _ => local_exponent isZero _
  · obtain ⟨ds, mid, hds, -⟩ := bind_eq_done (r := readDigits wantDigit) h
    unfold readDigits Cursor.digits at hds
    rw [List.head?_eq_none_iff.mp hend] at hds
    exact wantDigit_ne_done hds

/-- A number whose value is known, or is out of range. -/
def numberOr (n : Option Number) : Reader Number :=
  match n with
  | some n => done n
  | none => failHere .numberOutOfRange

/-- A number from behind its digits on. -/
def readScaled (negative : Bool) (whole : List Char) (fraction : Option (List Char)) :
    Reader Number := do
  let bare : Literal := ⟨negative, whole, fraction.getD [], 0, true⟩
  let mark ← peek
  if mark == some 'e' || mark == some 'E' then
    skip
    match ← readExponent (bare.parts.1 == 0) with
    | none => done (.float ⟨negative, 0⟩)
    | some e => numberOr { bare with exponent := e }.value?
  else numberOr { bare with isFloat := fraction.isSome }.value?

theorem readNumber_eq (negative : Bool) :
    readNumber negative = (do
      let whole ← readWhole
      match ← peek with
      | some '.' => do skip; readScaled negative whole (some (← readDigits wantDigit))
      | _ => readScaled negative whole none) :=
  rfl

theorem local_numberOr (n : Option Number) : LocalAt (numberOr n) c := by
  cases n with
  | some n => exact .done n
  | none => exact .failHere

theorem local_readScaled (negative : Bool) (whole : List Char) (fraction : Option (List Char)) :
    LocalAt (readScaled negative whole fraction) c := by
  refine .peek (fun x hx => ?_) (local_numberOr _) fun x hx => ?_
  · split
    · refine (LocalAt.skip hx).bind fun _ _ => (local_readExponent _).bind fun e _ => ?_
      cases e with
      | none => exact .done _
      | some e => exact local_numberOr _
    · exact local_numberOr _
  · rw [if_neg (by simpa using hx.2.2), if_neg (by decide)]

/-- A number is read the same with more behind it that does not go on it. -/
theorem local_readNumber (negative : Bool) : LocalAt (readNumber negative) c := by
  rw [readNumber_eq]
  refine local_readWhole.bind fun whole mid => ?_
  refine .peek (fun x hx => ?_) (local_readScaled _ _ _) fun x hx => ?_
  · split
    · refine (LocalAt.skip hx).bind fun _ _ => local_readDigits.bind fun ds _ => ?_
      exact local_readScaled _ _ _
    · exact local_readScaled _ _ _
  · split
    · rename_i h
      exact absurd (Option.some.inj h) hx.2.1
    · rfl

end Daybook.Json
