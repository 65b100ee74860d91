import Daybook.Json.Printer
import Daybook.Proofs.Json.Reads

/-!
# Reading words and quoted texts

Words are read as they stand. A quoted text is read back as what was quoted (`reads_readString`):
every character stands either for itself or for an escape that is read as it (`quoteChar_cases`).
-/

namespace Daybook.Json

open Reader

/-! ## Words -/

theorem reads_readWord {follow : List Char → Prop} : ∀ word : List Char,
    Reads (readWord word) word follow (fun _ => True)
  | [] => .done trivial
  | x :: xs => by
      refine .peek ?_
      show Reads (if x == x then skip >>= fun _ => readWord xs else failNext .expectedWord) _ _ _
      rw [if_pos (beq_self_eq_true x)]
      exact .skipThen (reads_readWord xs)

/-! ## Texts -/

/-- The two last digits of an escape tell the character. -/
theorem hexNumber_escape : ∀ n < 0x20,
    hexNumber? ['0', '0', hexDigit (n / 16), hexDigit (n % 16)] = some n := by
  decide

theorem reads_readEscape_code {n : Nat} (hn : n < 0x20) {follow : List Char → Prop} :
    Reads readEscape ['u', '0', '0', hexDigit (n / 16), hexDigit (n % 16)] follow
      (· = Char.ofNat n) := by
  refine .peek (.skipThen ?_)
  intro c rest hat hrest
  refine ⟨Char.ofNat n, c.next.next.next.next, ?_, rfl, hat.next.next.next.next⟩
  have hhex : readHex4 c = .done n c.next.next.next.next := by
    unfold readHex4
    rw [hat.rest]
    dsimp only [List.cons_append, List.nil_append]
    rw [hexNumber_escape n hn]
  refine (bind_of_done hhex).trans ?_
  have hlow : (decide (0xDC00 ≤ n) && decide (n ≤ 0xDFFF)) = false := by
    simp
    omega
  have hplain : (decide (n < 0xD800) || decide (0xDBFF < n)) = true := by
    simp
    omega
  rw [hlow, hplain]
  rfl

/-- What is written for a character, its backslash aside, is read as that character. -/
theorem quoteChar_cases (x : Char) :
    (quoteChar x = [x] ∧ x ≠ '"' ∧ x ≠ '\\' ∧ 0x20 ≤ x.toNat)
      ∨ ∃ escape, quoteChar x = '\\' :: escape
        ∧ ∀ follow, Reads readEscape escape follow (· = x) := by
  unfold quoteChar
  split
  · exact .inr ⟨_, rfl, fun _ => .peek (.skipThen (.done rfl))⟩
  · exact .inr ⟨_, rfl, fun _ => .peek (.skipThen (.done rfl))⟩
  · exact .inr ⟨_, rfl, fun _ => .peek (.skipThen (.done rfl))⟩
  · exact .inr ⟨_, rfl, fun _ => .peek (.skipThen (.done rfl))⟩
  · exact .inr ⟨_, rfl, fun _ => .peek (.skipThen (.done rfl))⟩
  · exact .inr ⟨_, rfl, fun _ => .peek (.skipThen (.done rfl))⟩
  · exact .inr ⟨_, rfl, fun _ => .peek (.skipThen (.done rfl))⟩
  · rename_i hquote hslash _ _ _ _ _
    split
    · rename_i hlow
      have hx : Char.ofNat x.toNat = x := Char.ofNat_toNat x
      refine .inr ⟨_, rfl, fun follow => ?_⟩
      exact (reads_readEscape_code hlow).imp (fun y hy => hy.trans hx) (fun _ h => h)
    · rename_i hhigh
      exact .inl ⟨rfl, hquote, hslash, Nat.not_lt.mp hhigh⟩

theorem readStringFrom_quoted : ∀ (cs passed : List Char) (fuel : Nat) (c : Cursor)
    (rest : List Char), cs.length < fuel → c.At (cs.flatMap quoteChar ++ '"' :: rest) →
      ∃ behind, readStringFrom fuel passed c = .done (String.ofList (passed.reverse ++ cs)) behind
        ∧ behind.At rest
  | _, _, 0, _, _, hfuel, _ => (nomatch hfuel)
  | [], passed, fuel + 1, c, rest, _, hat => by
      refine ⟨c.next, ?_, hat.next⟩
      rw [readStringFrom, hat.rest, List.append_nil]
      rfl
  | x :: cs, passed, fuel + 1, c, rest, hfuel, hat => by
      have hnext : (x :: passed).reverse ++ cs = passed.reverse ++ x :: cs := by simp
      rw [List.flatMap_cons, List.append_assoc] at hat
      rw [← hnext]
      have hless : cs.length < fuel := Nat.lt_of_succ_lt_succ hfuel
      rcases quoteChar_cases x with ⟨hx, hquote, hslash, hhigh⟩ | ⟨escape, hx, hescape⟩
      · rw [hx, List.singleton_append] at hat
        rw [readStringFrom, hat.rest]
        split
        · rename_i h
          exact nomatch h
        · rename_i h
          exact absurd (List.cons.inj h).1 hquote
        · rename_i h
          exact absurd (List.cons.inj h).1 hslash
        · rename_i h
          obtain ⟨rfl, -⟩ := List.cons.inj h
          rw [if_neg (Nat.not_lt.mpr hhigh)]
          exact readStringFrom_quoted cs (x :: passed) fuel c.next rest hless hat.next
      · rw [hx, List.cons_append] at hat
        obtain ⟨y, behind, hdone, rfl, hbehind⟩ := hescape (fun _ => True) c.next _ hat.next trivial
        have hstep : readStringFrom (fuel + 1) passed c
            = readStringFrom fuel (y :: passed) behind := by
          simp only [readStringFrom, hat.rest, hdone]
        rw [hstep]
        exact readStringFrom_quoted cs (y :: passed) fuel behind rest hless hbehind

theorem length_le_flatMap_quoteChar (cs : List Char) :
    cs.length ≤ (cs.flatMap quoteChar).length := by
  induction cs with
  | nil => exact Nat.le_refl _
  | cons x cs ih =>
      have hx : 0 < (quoteChar x).length := by
        rcases quoteChar_cases x with ⟨hx, -⟩ | ⟨escape, hx, -⟩ <;> rw [hx] <;> simp
      rw [List.flatMap_cons, List.length_append, List.length_cons]
      omega

/-- A text between quotes is read as that text, from behind its opening quote on. -/
theorem reads_readString (s : String) {follow : List Char → Prop} :
    Reads readString (s.toList.flatMap quoteChar ++ ['"']) follow (· = s) := by
  intro c rest hat hrest
  rw [List.append_assoc] at hat
  have hlength := length_le_flatMap_quoteChar s.toList
  have hfuel : s.toList.length < c.bound := by
    have hfits := hat.fits
    rw [List.length_append] at hfits
    unfold Cursor.bound
    omega
  obtain ⟨behind, hdone, hbehind⟩ := readStringFrom_quoted s.toList [] c.bound c rest hfuel hat
  refine ⟨_, behind, hdone, ?_, hbehind⟩
  exact String.ofList_toList

/-- A text between quotes. -/
def quotedText (s : String) : List Char :=
  '"' :: (s.toList.flatMap quoteChar ++ ['"'])

theorem toList_quote (s : String) : (quote s).toList = quotedText s := by
  simp [quote, quotedText]

theorem opens_quotedText (s : String) : Opens (quotedText s) :=
  ⟨_, _, rfl, by decide⟩

theorem reads_readText (s : String) {gap : List Char} (hgap : Blank gap)
    {follow : List Char → Prop} : Reads readText (gap ++ quotedText s) follow (· = s) := by
  refine .peekSolid hgap (by decide) (.skipThen ?_)
  refine (reads_readString s).thenGive fun s' hs' => ⟨s', rfl, hs'⟩

theorem reads_readOption_none {α : Type} {r : Reader α} {gap : List Char} (hgap : Blank gap)
    {follow : List Char → Prop} :
    Reads (readOption r) (gap ++ 'n' :: "ull".toList) follow (· = none) :=
  .peekSolid hgap (by decide) (.skipThen ((reads_readWord _).thenDone fun _ _ => rfl))

theorem reads_readOption_some {α : Type} {r : Reader α} {gap text : List Char} {x : Char}
    (hgap : Blank gap) (hx : Cursor.isSpace x = false) (hnull : x ≠ 'n')
    {follow : List Char → Prop} {P : α → Prop} (h : Reads r (x :: text) follow P) :
    Reads (readOption r) (gap ++ x :: text) follow (fun o => ∃ a, o = some a ∧ P a) := by
  refine .peekSolid hgap hx ?_
  split
  · rename_i hn
    exact absurd (Option.some.inj hn) hnull
  · exact h.thenDone fun a ha => ⟨a, rfl, ha⟩

end Daybook.Json
