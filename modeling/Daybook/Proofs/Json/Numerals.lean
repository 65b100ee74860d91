import Daybook.Json.Printer
import Daybook.Proofs.Json.Numbers

/-!
# Numbers that read back

What is read of the text of a number inside a longer text is what is read of that text alone
(`reads_number`). So whether a number reads back is a question about the number alone, which can be
computed (`Number.readsBack`). Integers of 64 bits do (`readsBack_integer`), and other integers are
not read (`gives_readNumber`).
-/

namespace Daybook.Json

open Reader Daybook.Number

variable {c : Cursor}

/-! ## Numbers that read back -/

/-- Whether the text of a number, alone, is read as an equal number. -/
def Number.readsBack (n : Number) : Bool :=
  match parse n.toJson with
  | .ok (.number m) => m == n
  | _ => false

/-- Whether all characters of a text may stand in a number. -/
def Numeral (text : List Char) : Prop :=
  ∀ x ∈ text, x.isDigit = true ∨ x ∈ ['-', '+', '.', 'e']

instance (text : List Char) : Decidable (Numeral text) :=
  List.decidableBAll _ text

theorem Numeral.append {text text' : List Char} (h : Numeral text) (h' : Numeral text') :
    Numeral (text ++ text') :=
  fun x hx => (List.mem_append.mp hx).elim (h x) (h' x)

theorem Numeral.sublist {text text' : List Char} (h : Numeral text') (hsub : text.Sublist text') :
    Numeral text :=
  fun x hx => h x (hsub.subset hx)

theorem numeral_zeros (n : Nat) : Numeral (List.replicate n '0') :=
  fun _ hx => .inl (by rw [List.eq_of_mem_replicate hx]; rfl)

theorem numeral_digitChars (n : Nat) : Numeral (digitChars n) :=
  fun _ hx => .inl (Nat.isDigit_of_mem_toDigits (by decide) (by decide) hx)

theorem toList_natText (n : Nat) : (natText n).toList = digitChars n :=
  String.toList_ofList

theorem numeral_natText (n : Nat) : Numeral (natText n).toList := by
  rw [toList_natText]
  exact numeral_digitChars n

theorem numeral_intText (n : Int) : Numeral (intText n).toList := by
  unfold intText
  split
  · rw [String.toList_append]
    exact Numeral.append (by decide) (numeral_natText _)
  · exact numeral_natText _

theorem numeral_positional {whole : String} (h : Numeral whole.toList) (d : Decimal) :
    Numeral (positional whole d).toList := by
  have hdigits := numeral_digitChars d.digits
  have hpoint : Numeral ['.'] := by decide
  unfold positional
  dsimp only
  split
  · rw [String.toList_append, String.toList_ofList]
    exact (hdigits.append (numeral_zeros _)).append h
  · split
    · rw [String.toList_ofList]
      exact (hdigits.sublist (List.take_sublist _ _)).append
        (hpoint.append (hdigits.sublist (List.drop_sublist _ _)))
    · rw [String.toList_ofList]
      exact (Numeral.append (by decide : Numeral ['0', '.']) (numeral_zeros _)).append hdigits

theorem numeral_scientific (d : Decimal) : Numeral (scientific d).toList := by
  have hdigits := numeral_digitChars d.digits
  have hpoint : Numeral ['.'] := by decide
  unfold scientific
  rw [String.toList_append, String.toList_append, String.toList_ofList]
  refine Numeral.append (Numeral.append ?_ ?_) (numeral_natText _)
  · cases hd : digitChars d.digits with
    | nil => exact fun _ hx => (nomatch hx)
    | cons x xs =>
        rw [hd] at hdigits
        have hx : Numeral [x] := hdigits.sublist (List.singleton_sublist.mpr List.mem_cons_self)
        cases xs with
        | nil => exact hx
        | cons y ys =>
            exact hx.append (hpoint.append (hdigits.sublist (List.sublist_cons_self _ _)))
  · split <;> decide

theorem numeral_toJson (n : Number) : Numeral n.toJson.toList := by
  cases n with
  | integer value => exact numeral_intText value
  | float value =>
      show Numeral value.jsonText.toList
      unfold Binary64.jsonText
      rw [String.toList_append]
      refine Numeral.append ?_ ?_
      · split <;> decide
      · split
        · decide
        · dsimp only
          split
          · exact numeral_positional (by decide) _
          · exact numeral_scientific _

theorem Numeral.not_space {text : List Char} (h : Numeral text) {x : Char} (hx : x ∈ text) :
    Cursor.isSpace x = false := by
  rcases h x hx with hdigit | hmem
  · cases hspace : Cursor.isSpace x with
    | false => rfl
    | true =>
        simp only [Cursor.isSpace, Bool.or_eq_true, beq_iff_eq] at hspace
        rcases hspace with ((rfl | rfl) | rfl) | rfl <;> exact absurd hdigit (by decide)
  · simp only [List.mem_cons, List.not_mem_nil, or_false] at hmem
    rcases hmem with rfl | rfl | rfl | rfl <;> rfl

/-- What is left of a numeral that is read to its end is nothing. -/
theorem rest_eq_nil {text : List Char} (h : Numeral text) (hc : c.rest <:+ text)
    (hend : c.skipSpace.rest.isEmpty = true) : c.rest = [] := by
  cases hrest : c.rest with
  | nil => rfl
  | cons x xs =>
      have hx : Cursor.isSpace x = false := by
        refine h.not_space (hc.subset ?_)
        rw [hrest]
        exact List.mem_cons_self
      unfold Cursor.skipSpace at hend
      rw [rest_skipWhile, hrest, List.dropWhile_cons_of_neg (by rw [hx]; decide)] at hend
      exact nomatch hend

/-- What reads all of a numeral reads it inside a longer text, too. -/
theorem reads_of_done {r : Reader Number} {m : Number} {behind : Cursor} (hlocal : LocalAt r c)
    (hdone : r c = .done m behind) (hnumeral : Numeral c.rest)
    (hend : behind.skipSpace.rest.isEmpty = true) : Reads r c.rest Ends (· = m) := by
  intro c' rest hat hrest
  obtain ⟨hsuffix, hsame⟩ := hlocal m behind hdone
  obtain ⟨behind', hdone', hbehind'⟩ := hsame c' rest hat hrest
  rw [rest_eq_nil hnumeral hsuffix hend] at hbehind'
  exact ⟨m, behind', hdone', rfl, hbehind'⟩

/-- What begins with a character of a number can only be read as a number. -/
theorem readValueFrom_numeral (allowed : Nat) {x : Char} (hx : Numeral [x]) :
    readValueFrom allowed x =
      if x = '-' then do skip; done (.number (← readNumber true))
      else if x.isDigit then do done (.number (← readNumber false))
      else failNext .expectedValue := by
  rcases hx x List.mem_cons_self with hdigit | hmem
  · have hother : ∀ y ∈ ['n', 't', 'f', '-', '"', '[', '{'], x ≠ y := by
      intro y hy hxy
      subst hxy
      simp only [List.mem_cons, List.not_mem_nil, or_false] at hy
      rcases hy with rfl | rfl | rfl | rfl | rfl | rfl | rfl <;> exact absurd hdigit (by decide)
    rw [readValueFrom, if_neg (hother '-' (by decide))] <;> exact hother _ (by decide)
  · have hmarks : ∀ x ∈ ['-', '+', '.', 'e'], readValueFrom allowed x =
        if x = '-' then do skip; done (.number (← readNumber true))
        else if x.isDigit then do done (.number (← readNumber false))
        else failNext .expectedValue := by
      intro x hx
      simp only [List.mem_cons, List.not_mem_nil, or_false] at hx
      rcases hx with rfl | rfl | rfl | rfl <;> rfl
    exact hmarks x hmem

theorem reads_readValueFrom_number {x : Char} {xs : List Char} {allowed : Nat} {m : Number}
    {behind : Cursor} (hat : c.At (x :: xs)) (hnumeral : Numeral (x :: xs))
    (hdone : readValueFrom allowed x c = .done (.number m) behind)
    (hend : behind.skipSpace.rest.isEmpty = true) (allowed' : Nat) :
    Reads (readValueFrom allowed' x) (x :: xs) Ends (· = .number m) := by
  have hx : Numeral [x] := hnumeral.sublist (List.singleton_sublist.mpr List.mem_cons_self)
  have hxs : Numeral xs := hnumeral.sublist (List.sublist_cons_self x xs)
  rw [readValueFrom_numeral allowed hx] at hdone
  rw [readValueFrom_numeral allowed' hx]
  split at hdone
  · rw [if_pos ‹_›]
    obtain ⟨n, hread, hn⟩ := thenDone_eq_done (r := readNumber true) (c := c.next) hdone
    obtain rfl := Value.number.inj hn
    have hbody := hat.next.rest
    have hreads := reads_of_done (local_readNumber true) hread (by rw [hbody]; exact hxs) hend
    rw [hbody] at hreads
    exact .skipThen (hreads.thenDone fun m' hm' => congrArg Value.number hm')
  · rw [if_neg ‹_›]
    split at hdone
    · rw [if_pos ‹_›]
      obtain ⟨n, hread, hn⟩ := thenDone_eq_done hdone
      obtain rfl := Value.number.inj hn
      have hreads := reads_of_done (local_readNumber false) hread
        (by rw [hat.rest]; exact hnumeral) hend
      rw [hat.rest] at hreads
      exact hreads.thenDone fun m' hm' => congrArg Value.number hm'
    · exact nomatch hdone

theorem done_of_readsBack {n : Number} (h : n.readsBack = true) : ∃ m behind,
    readValue nestingLimit (Cursor.start n.toJson.toList) = .done (.number m) behind
      ∧ behind.skipSpace.rest.isEmpty = true ∧ (m == n) = true := by
  unfold Number.readsBack at h
  split at h
  · rename_i m hparse
    unfold parse readAll at hparse
    split at hparse
    · exact nomatch hparse
    · exact nomatch hparse
    · rename_i value behind hdone
      dsimp only at hparse
      split at hparse
      · rename_i hempty
        obtain rfl := Except.ok.inj hparse
        exact ⟨m, behind, hdone, hempty, h⟩
      · exact nomatch hparse
  · exact nomatch h

/-- A number that reads back alone does so behind blanks and in front of what does not go on it. -/
theorem reads_number {n : Number} (h : n.readsBack = true) {gap : List Char} (hgap : Blank gap)
    (allowed : Nat) : Reads (readValue allowed) (gap ++ n.toJson.toList) Ends
      (fun v => ∃ m, v = .number m ∧ (m == n) = true) := by
  have hnumeral := numeral_toJson n
  obtain ⟨m, behind, hdone, hend, hm⟩ := done_of_readsBack h
  rw [readValue_eq] at hdone ⊢
  obtain ⟨next, here, hnext, hdone⟩ := bind_eq_done hdone
  obtain ⟨rfl, rfl⟩ := Outcome.done.inj hnext
  cases htext : n.toJson.toList with
  | nil =>
      rw [htext] at hdone
      exact nomatch hdone
  | cons x xs =>
      rw [htext] at hdone hnumeral
      have hx : Cursor.isSpace x = false := hnumeral.not_space List.mem_cons_self
      have hat : (Cursor.start (x :: xs)).skipSpace.At (x :: xs) :=
        Cursor.At.skipSpace_solid ⟨rfl, Nat.le_refl _⟩ hx
      rw [hat.rest] at hdone
      refine .peekSolid hgap hx ?_
      refine (reads_readValueFrom_number hat hnumeral hdone hend allowed).imp ?_ fun _ h => h
      exact fun v hv => ⟨m, hv, hm⟩

/-! ## Integers -/

/-- Whether a number, if it is an integer, has 64 bits, with a sign or without. -/
def Number.InRange : Number → Prop
  | .integer n => -(twoPow 63 : Int) ≤ n ∧ n < twoPow 64
  | .float _ => True

/-- The digits of a number other than zero do not begin with one. -/
theorem digitChars_eq_cons {n : Nat} (hn : 0 < n) : ∃ d ds, digitChars n = d :: ds ∧ d ≠ '0' := by
  induction n using Nat.strongRecOn with
  | ind n ih =>
      unfold digitChars at ih ⊢
      by_cases hlt : n < 10
      · rw [Nat.toDigits_of_lt_base hlt]
        refine ⟨_, [], rfl, ?_⟩
        have hdigit : ∀ n < 10, 0 < n → Nat.digitChar n ≠ '0' := by decide
        exact hdigit n hlt hn
      · obtain ⟨d, ds, hd, hne⟩ := ih (n / 10) (by omega) (by omega)
        rw [Nat.toDigits_of_base_le (by decide) (by omega), hd]
        exact ⟨d, _, rfl, hne⟩

theorem le_ofDigitChars (n : Nat) (ds : List Char) : n ≤ Nat.ofDigitChars 10 ds n := by
  rw [Nat.ofDigitChars_eq_ofDigitChars_zero]
  exact Nat.le_add_right_of_le (Nat.le_mul_of_pos_left n (Nat.pow_pos (by decide)))

/-- Digits are all appended if the number they come to has 64 bits. -/
theorem appendDigits_eq : ∀ (ds : List Char) (n used : Nat),
    Nat.ofDigitChars 10 ds n ≤ maxNatural →
      appendDigits n used ds = (Nat.ofDigitChars 10 ds n, used + ds.length)
  | [], _, _, _ => rfl
  | d :: ds, n, used, h => by
      rw [Nat.ofDigitChars_cons, Nat.mul_comm 10] at h ⊢
      have hstep : n * 10 + (d.toNat - 48) ≤ maxNatural := Nat.le_trans (le_ofDigitChars _ ds) h
      have hused : used + 1 + ds.length = used + (d :: ds).length := by
        rw [List.length_cons]
        omega
      rw [appendDigits, if_neg (Nat.not_lt.mpr hstep), ← hused]
      exact appendDigits_eq ds _ _ h

/-- The digits of a number, before its point and behind, come to one integer if that has 64 bits. -/
theorem parts_eq {l : Literal}
    (h : Nat.ofDigitChars 10 (l.whole ++ l.fraction) 0 ≤ maxNatural) :
    l.parts
      = (Nat.ofDigitChars 10 (l.whole ++ l.fraction) 0, l.exponent - l.fraction.length) := by
  rw [Nat.ofDigitChars_append] at h ⊢
  unfold Literal.parts
  rw [appendDigits_eq l.whole 0 0 (Nat.le_trans (le_ofDigitChars _ l.fraction) h)]
  dsimp only
  rw [appendDigits_eq l.fraction _ 0 h]
  exact Prod.ext rfl (by dsimp only; omega)

theorem value?_integer {n : Nat} {negative : Bool}
    (h : (Number.integer (if negative then -n else n)).InRange) (hn : negative = true → 0 < n) :
    Literal.value? ⟨negative, digitChars n, [], 0, false⟩
      = some (.integer (if negative then -n else n)) := by
  have hten : Nat.ofDigitChars 10 (digitChars n ++ []) 0 = n := by
    rw [List.append_nil]
    exact Nat.ofDigitChars_ten_toDigits
  have hfits : n ≤ maxNatural := by
    unfold Number.InRange twoPow at h
    unfold maxNatural twoPow
    cases negative <;> simp at h ⊢ <;> omega
  have hparts : Literal.parts ⟨negative, digitChars n, [], 0, false⟩ = (n, 0) := by
    rw [parts_eq (by rw [hten]; exact hfits), hten]
    rfl
  have hwhole : (negative && (n == 0 || decide (twoPow 63 < n))) = false := by
    cases negative with
    | false => rfl
    | true =>
        have hpos := hn rfl
        have hlow : ¬twoPow 63 < n := by
          unfold Number.InRange at h
          simp at h
          omega
        simp [Nat.ne_of_gt hpos, hlow]
  unfold Literal.value?
  rw [hparts]
  dsimp only
  rw [hwhole]
  rfl

/-- Whether a text has no digit in front. -/
def NoDigit (tail : List Char) : Prop :=
  ∀ x ∈ tail.head?, x.isDigit = false

theorem readDigits_append {ds tail : List Char} (hc : c.rest = ds ++ tail) (hne : ds ≠ [])
    (hds : ∀ x ∈ ds, x.isDigit = true) (htail : NoDigit tail) :
    ∃ behind, readDigits wantDigit c = .done ds behind ∧ behind.rest = tail := by
  obtain ⟨htake, hdrop⟩ :
      tail.takeWhile Char.isDigit = [] ∧ tail.dropWhile Char.isDigit = tail := by
    cases tail with
    | nil => exact ⟨rfl, rfl⟩
    | cons x xs =>
        have hx : ¬x.isDigit = true := by simp [htail x rfl]
        exact ⟨List.takeWhile_cons_of_neg hx, List.dropWhile_cons_of_neg hx⟩
  refine ⟨Cursor.skipWhile Char.isDigit c.rest c.place c.size, ?_, ?_⟩
  · unfold readDigits Cursor.digits
    rw [hc, List.takeWhile_append_of_pos hds, htake, List.append_nil]
    cases ds with
    | nil => exact absurd rfl hne
    | cons d ds => rfl
  · rw [rest_skipWhile, hc, List.dropWhile_append_of_pos hds, hdrop]

/-- Whether digits may stand before a point: a zero stands alone. -/
structure IsWhole (ds : List Char) : Prop where
  digits : ∀ x ∈ ds, x.isDigit = true
  front : ds = ['0'] ∨ ∃ d ds', ds = d :: ds' ∧ d ≠ '0'

theorem isWhole_digitChars (n : Nat) : IsWhole (digitChars n) where
  digits _ hx := Nat.isDigit_of_mem_toDigits (by decide) (by decide) hx
  front := by
    rcases Nat.eq_zero_or_pos n with rfl | hn
    · exact .inl rfl
    · exact .inr (digitChars_eq_cons hn)

theorem readWhole_append {ds tail : List Char} (hc : c.rest = ds ++ tail) (hds : IsWhole ds)
    (htail : NoDigit tail) :
    ∃ behind, readWhole c = .done ds behind ∧ behind.rest = tail := by
  rcases hds.front with rfl | ⟨d, ds', rfl, hd⟩
  · obtain ⟨rest, place, size⟩ := c
    obtain rfl : rest = '0' :: tail := hc
    refine ⟨(Cursor.mk ('0' :: tail) place size).next, ?_, rfl⟩
    cases tail with
    | nil => rfl
    | cons x xs =>
        have hx : ¬x.isDigit = true := by simp [htail x rfl]
        exact congrFun (if_neg hx) (Cursor.mk ('0' :: x :: xs) place size).next
  · have hwhole : readWhole c = readDigits wantDigit c := by
      have hhead : c.rest.head? = some d := by rw [hc]; rfl
      refine (bind_of_done (r := peek) rfl).trans (congrFun ?_ c)
      rw [hhead]
      split
      · rename_i h
        exact absurd (Option.some.inj h) hd
      · rfl
    rw [hwhole]
    exact readDigits_append hc (List.cons_ne_nil d ds') hds.digits htail

theorem readNumber_integer {n : Nat} (negative : Bool)
    (h : (Number.integer (if negative then -n else n)).InRange) (hn : negative = true → 0 < n)
    (hc : c.rest = digitChars n) : ∃ behind,
      readNumber negative c = .done (.integer (if negative then -n else n)) behind
        ∧ behind.rest = [] := by
  obtain ⟨behind, hwhole, hend⟩ := readWhole_append (hc.trans (List.append_nil _).symm)
    (isWhole_digitChars n) (nomatch ·, ·)
  have hnone : (peek : Reader (Option Char)) behind = .done none behind := peek_of_rest hend
  refine ⟨behind, ?_, hend⟩
  rw [readNumber_eq]
  refine (bind_of_done hwhole).trans ((bind_of_done hnone).trans ?_)
  refine (bind_of_done hnone).trans ?_
  show numberOr (Literal.value? ⟨negative, digitChars n, [], 0, false⟩) behind = _
  rw [value?_integer h hn]
  rfl

theorem parse_of_readValueFrom {text : String} {x : Char} {xs : List Char} {v : Value}
    (htext : text.toList = x :: xs) (hx : Cursor.isSpace x = false)
    (h : ∀ c, c.rest = x :: xs →
      ∃ behind, readValueFrom nestingLimit x c = .done v behind ∧ behind.rest = []) :
    parse text = .ok v := by
  have hat : (Cursor.start (x :: xs)).skipSpace.At (x :: xs) :=
    Cursor.At.skipSpace_solid ⟨rfl, Nat.le_refl _⟩ hx
  obtain ⟨behind, hdone, hend⟩ := h _ hat.rest
  unfold parse
  rw [htext, readValue_eq]
  refine readAll_of_done ((bind_of_done (r := peekSolid) rfl).trans ?_) hend
  rw [hat.rest]
  exact hdone

/-- A text is read as a number if what is behind its sign is, to the end. -/
theorem parse_number {text : String} {x : Char} {xs : List Char} {n : Number} (negative : Bool)
    (htext : text.toList = if negative then '-' :: x :: xs else x :: xs) (hx : x.isDigit = true)
    (h : ∀ c, c.rest = x :: xs →
      ∃ behind, readNumber negative c = .done n behind ∧ behind.rest = []) :
    parse text = .ok (.number n) := by
  cases negative with
  | true =>
      refine parse_of_readValueFrom htext (by decide) fun c hc => ?_
      obtain ⟨behind, hread, hend⟩ := h c.next (Cursor.rest_next hc)
      exact ⟨behind, (bind_of_done hread).trans rfl, hend⟩
  | false =>
      have hnumeral : Numeral [x] := fun y hy => .inl (by rw [List.mem_singleton.mp hy]; exact hx)
      have hminus : x ≠ '-' := by
        rintro rfl
        exact nomatch hx
      refine parse_of_readValueFrom htext (hnumeral.not_space List.mem_cons_self) fun c hc => ?_
      obtain ⟨behind, hread, hend⟩ := h c hc
      refine ⟨behind, ?_, hend⟩
      rw [readValueFrom_numeral _ hnumeral, if_neg hminus, if_pos hx]
      exact (bind_of_done hread).trans rfl

theorem parse_integer {n : Nat} (negative : Bool)
    (h : (Number.integer (if negative then -n else n)).InRange) (hn : negative = true → 0 < n)
    {text : String} (htext : text.toList = if negative then '-' :: digitChars n else digitChars n) :
    parse text = .ok (.number (.integer (if negative then -n else n))) := by
  obtain ⟨x, xs, hxs⟩ : ∃ x xs, digitChars n = x :: xs :=
    List.exists_cons_of_ne_nil Nat.toDigits_ne_nil
  have hx : x.isDigit = true := by
    refine (isWhole_digitChars n).digits x ?_
    rw [hxs]
    exact List.mem_cons_self
  rw [hxs] at htext
  exact parse_number negative htext hx fun c hc =>
    readNumber_integer negative h hn (hc.trans hxs.symm)

/-- Integers of 64 bits read back. -/
theorem readsBack_integer {n : Int} (h : (Number.integer n).InRange) :
    (Number.integer n).readsBack = true := by
  have hparse : parse (intText n) = .ok (.number (.integer n)) := by
    unfold intText
    split
    · obtain ⟨k, rfl⟩ : ∃ k : Nat, n = -k := ⟨n.natAbs, by omega⟩
      rw [Int.natAbs_neg, Int.natAbs_natCast]
      refine parse_integer true h (fun _ => by omega) ?_
      rw [String.toList_append, toList_natText]
      rfl
    · obtain ⟨k, rfl⟩ : ∃ k : Nat, n = k := ⟨n.natAbs, by omega⟩
      exact parse_integer false h (nomatch ·) (toList_natText k)
  unfold Number.readsBack Number.toJson
  rw [hparse]
  exact beq_self_eq_true n

/-! ## Numbers that are read -/

theorem appendDigits_le : ∀ (ds : List Char) (n used : Nat), n ≤ maxNatural →
    (appendDigits n used ds).1 ≤ maxNatural
  | [], _, _, h => h
  | d :: ds, n, used, h => by
      rw [appendDigits]
      split
      · exact h
      · exact appendDigits_le ds _ _ (by omega)

theorem inRange_of_value? {l : Literal} {n : Number} (h : l.value? = some n) : n.InRange := by
  have hparts : l.parts.1 ≤ maxNatural :=
    appendDigits_le _ _ _ (appendDigits_le _ _ _ (Nat.zero_le _))
  unfold Literal.value? at h
  dsimp only at h
  split at h
  · obtain ⟨x, -, rfl⟩ := Option.map_eq_some_iff.mp h
    trivial
  · split at h
    · obtain rfl := Option.some.inj h
      trivial
    · rename_i hwhole
      obtain rfl := Option.some.inj h
      unfold maxNatural twoPow at hparts
      unfold Number.InRange twoPow
      cases hneg : l.negative with
      | false =>
          simp at hparts ⊢
          omega
      | true =>
          rw [hneg] at hwhole
          simp only [Bool.true_and, Bool.or_eq_true, decide_eq_true_eq, not_or] at hwhole
          obtain ⟨-, hlow⟩ := hwhole
          unfold twoPow at hlow
          simp at hparts hlow ⊢
          omega

/-- Every number that is read is a floating-point value or an integer of 64 bits. -/
theorem gives_readNumber (negative : Bool) : Gives (readNumber negative) Number.InRange := by
  have hnumber : ∀ l : Literal, Gives (numberOr l.value?) Number.InRange := by
    intro l
    cases hl : l.value? with
    | none => exact .failHere
    | some n => exact .done (inRange_of_value? hl)
  have hscaled : ∀ whole fraction,
      Gives (readScaled negative whole fraction) Number.InRange := by
    intro whole fraction
    refine .after fun mark => ?_
    split
    · refine .after fun _ => .after fun e => ?_
      cases e with
      | none => exact .done trivial
      | some e => exact hnumber _
    · exact hnumber _
  rw [readNumber_eq]
  refine .after fun whole => .after fun next => ?_
  split
  · exact .after fun _ => .after fun ds => hscaled whole _
  · exact hscaled whole none

end Daybook.Json
