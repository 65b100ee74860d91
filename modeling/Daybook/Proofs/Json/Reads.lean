import Daybook.Proofs.Json.Gives

/-!
# Texts that readers read

What a reader makes of a text that stands somewhere inside a longer one (`Reader.Reads`): it gives
something with a property and stops right behind the text, as long as what follows is of some kind.
A number must not be followed by more of a number, the items of a list must be followed by its
bracket. The readers of containers read what is spread over lines as the printer does it
(`reads_items`, `reads_members`).
-/

namespace Daybook.Json

/-! ## Texts at a cursor -/

/-- Whether a text is all that is left at a cursor, and is no longer than the whole text was. -/
structure Cursor.At (c : Cursor) (text : List Char) : Prop where
  rest : c.rest = text
  fits : text.length ≤ c.size

/-- Whether all characters of a text are blanks of JSON. -/
def Blank (text : List Char) : Prop :=
  ∀ x ∈ text, Cursor.isSpace x = true

/-- Whether a text begins with a character. -/
def Starts (x : Char) (text : List Char) : Prop :=
  text.head? = some x

/-- Whether a text is there and does not begin with a blank or a closing bracket. -/
def Opens (text : List Char) : Prop :=
  ∃ x xs, text = x :: xs ∧ Cursor.isSpace x = false ∧ x ≠ ']' ∧ x ≠ '}'

/-- Whether a text does not go on a number that stands before it. -/
def Ends (text : List Char) : Prop :=
  ∀ x, text.head? = some x → x.isDigit = false ∧ x ≠ '.' ∧ x ≠ 'e' ∧ x ≠ 'E'

theorem blank_nil : Blank [] :=
  fun _ h => nomatch h

theorem blank_space : Blank [' '] := by
  intro x hx
  obtain rfl := List.mem_singleton.mp hx
  rfl

theorem ends_cons {x : Char} (h : x.isDigit = false ∧ x ≠ '.' ∧ x ≠ 'e' ∧ x ≠ 'E')
    (text : List Char) : Ends (x :: text) := by
  intro y hy
  obtain rfl := Option.some.inj hy
  exact h

theorem ends_of_blank {blanks text : List Char} (hblank : Blank blanks) (h : Ends text) :
    Ends (blanks ++ text) := by
  cases blanks with
  | nil => exact h
  | cons x blanks =>
      have hx := hblank x List.mem_cons_self
      simp only [Cursor.isSpace, Bool.or_eq_true, beq_iff_eq] at hx
      rcases hx with ((rfl | rfl) | rfl) | rfl <;> exact ends_cons (by decide) _

namespace Cursor

variable {c : Cursor} {x : Char} {text blanks : List Char}

theorem At.next (h : c.At (x :: text)) : c.next.At text := by
  unfold Cursor.next
  rw [h.rest]
  exact ⟨rfl, Nat.le_of_succ_le h.fits⟩

theorem At.skipSpace (h : c.At (blanks ++ x :: text)) (hblank : Blank blanks)
    (hx : isSpace x = false) : c.skipSpace.At (x :: text) := by
  have hskip : ∀ place, (skipWhile isSpace (blanks ++ x :: text) place c.size).At (x :: text) := by
    have hfits := h.fits
    clear h
    induction blanks with
    | nil =>
        intro place
        rw [List.nil_append, skipWhile, hx]
        exact ⟨rfl, hfits⟩
    | cons b blanks ih =>
        intro place
        rw [List.cons_append, skipWhile, if_pos (hblank b List.mem_cons_self)]
        exact ih (fun y hy => hblank y (List.mem_cons_of_mem b hy)) (Nat.le_of_succ_le hfits) _
  unfold Cursor.skipSpace
  rw [h.rest]
  exact hskip c.place

theorem At.skipSpace_solid (h : c.At (x :: text)) (hx : isSpace x = false) :
    c.skipSpace.At (x :: text) :=
  At.skipSpace (show c.At ([] ++ x :: text) from h) blank_nil hx

end Cursor

/-! ## Reading -/

/-- Whether a reader reads a text, followed by something of a kind, as something with a property. -/
def Reader.Reads {α : Type} (r : Reader α) (text : List Char) (follow : List Char → Prop)
    (P : α → Prop) : Prop :=
  ∀ c rest, c.At (text ++ rest) → follow rest →
    ∃ a behind, r c = .done a behind ∧ P a ∧ behind.At rest

/-- A reader that leaves nothing reads a whole text. -/
theorem Reader.readAll_of_done {α : Type} {r : Reader α} {text : List Char} {a : α}
    {behind : Cursor} (h : r (Cursor.start text) = .done a behind) (hend : behind.rest = []) :
    Json.readAll r text = .ok a := by
  have hempty : behind.skipSpace.rest.isEmpty = true := by
    unfold Cursor.skipSpace
    rw [hend, Cursor.skipWhile]
    rfl
  unfold Json.readAll
  rw [h]
  dsimp only
  rw [if_pos hempty]

namespace Reader.Reads

variable {α β : Type} {r : Reader α} {f : α → Reader β} {text text' : List Char}
  {follow follow' : List Char → Prop} {P : α → Prop} {Q : β → Prop} {x : Char}

theorem done {a : α} (h : P a) : Reads (Reader.done a) [] follow P :=
  fun c _ hat _ => ⟨a, c, rfl, h, hat⟩

theorem skip : Reads Reader.skip [x] follow (fun _ => True) :=
  fun c _ hat _ => ⟨(), c.next, rfl, trivial, hat.next⟩

theorem imp (h : Reads r text follow P) {P' : α → Prop} (hP : ∀ a, P a → P' a)
    (hfollow : ∀ rest, follow' rest → follow rest) : Reads r text follow' P' := by
  intro c rest hat hrest
  obtain ⟨a, behind, hr, ha, hbehind⟩ := h c rest hat (hfollow rest hrest)
  exact ⟨a, behind, hr, hP a ha, hbehind⟩

theorem bind (hr : Reads r text follow' P) (hf : ∀ a, P a → Reads (f a) text' follow Q)
    (hfollow : ∀ rest, follow rest → follow' (text' ++ rest)) :
    Reads (r >>= f) (text ++ text') follow Q := by
  intro c rest hat hrest
  rw [List.append_assoc] at hat
  obtain ⟨a, behind, hdone, ha, hbehind⟩ := hr c (text' ++ rest) hat (hfollow rest hrest)
  obtain ⟨b, behind', hdone', hb, hbehind'⟩ := hf a ha behind rest hbehind hrest
  exact ⟨b, behind', (bind_of_done hdone).trans hdone', hb, hbehind'⟩

/-- Reading something and giving something else for it, without reading on. -/
theorem thenGive (hr : Reads r text follow P) (hf : ∀ a, P a → ∃ b, f a = Reader.done b ∧ Q b) :
    Reads (r >>= f) text follow Q := by
  intro c rest hat hrest
  obtain ⟨a, behind, hdone, ha, hbehind⟩ := hr c rest hat hrest
  obtain ⟨b, hb, hQ⟩ := hf a ha
  refine ⟨b, behind, (bind_of_done hdone).trans ?_, hQ, hbehind⟩
  rw [hb]
  rfl

theorem thenDone {g : α → β} (hr : Reads r text follow P) (hg : ∀ a, P a → Q (g a)) :
    Reads (r >>= fun a => Reader.done (g a)) text follow Q :=
  hr.thenGive fun a ha => ⟨g a, rfl, hg a ha⟩

/-- A reader may look at the next character before it goes on. -/
theorem peek {f : Option Char → Reader β} (h : Reads (f (some x)) (x :: text) follow Q) :
    Reads (Reader.peek >>= f) (x :: text) follow Q := by
  intro c rest hat hrest
  obtain ⟨b, behind, hdone, hb, hbehind⟩ := h c rest hat hrest
  refine ⟨b, behind, ?_, hb, hbehind⟩
  show f c.rest.head? c = _
  rw [hat.rest]
  exact hdone

/-- A reader may move over blanks and look at the character behind them. -/
theorem peekSolid {f : Option Char → Reader β} {blanks : List Char} (hblank : Blank blanks)
    (hx : Cursor.isSpace x = false) (h : Reads (f (some x)) (x :: text) follow Q) :
    Reads (Reader.peekSolid >>= f) (blanks ++ x :: text) follow Q := by
  intro c rest hat hrest
  rw [List.append_assoc, List.cons_append] at hat
  have hsolid := hat.skipSpace hblank hx
  obtain ⟨b, behind, hdone, hb, hbehind⟩ := h c.skipSpace rest hsolid hrest
  refine ⟨b, behind, ?_, hb, hbehind⟩
  show f c.skipSpace.rest.head? c.skipSpace = _
  rw [hsolid.rest]
  exact hdone

/-- Of a text that begins with a solid character, the reader looks at that. -/
theorem solid {f : Option Char → Reader β} (hx : Cursor.isSpace x = false)
    (h : Reads (f (some x)) (x :: text) follow Q) :
    Reads (Reader.peekSolid >>= f) (x :: text) follow Q :=
  peekSolid blank_nil hx h

/-- A reader may look at a solid character that belongs to what follows. -/
theorem peekFollow {f : Option Char → Reader β} {blanks : List Char} (hblank : Blank blanks)
    (hfollow : ∀ rest, follow rest → ∃ x xs, rest = x :: xs ∧ Cursor.isSpace x = false
      ∧ Reads (f (some x)) [] (· = x :: xs) Q) :
    Reads (Reader.peekSolid >>= f) blanks follow Q := by
  intro c rest hat hrest
  obtain ⟨x, xs, rfl, hx, h⟩ := hfollow rest hrest
  have hsolid := hat.skipSpace hblank hx
  obtain ⟨b, behind, hdone, hb, hbehind⟩ := h c.skipSpace (x :: xs) hsolid rfl
  refine ⟨b, behind, ?_, hb, hbehind⟩
  show f c.skipSpace.rest.head? c.skipSpace = _
  rw [hsolid.rest]
  exact hdone

/-- Moving over a character and going on. -/
theorem skipThen {f : Unit → Reader β} (h : Reads (f ()) text follow Q) :
    Reads (Reader.skip >>= f) (x :: text) follow Q := by
  intro c rest hat hrest
  exact h c.next rest hat.next hrest

theorem placing {past : Cursor → Cursor} (h : Reads r text follow P) :
    Reads (placing past r) text follow P := by
  intro c rest hat hrest
  obtain ⟨a, behind, hdone, ha, hbehind⟩ := h c rest hat hrest
  refine ⟨a, behind, ?_, ha, hbehind⟩
  unfold Json.placing
  rw [hdone]

/-- A whole text is read as what a reader reads it as. -/
theorem readAll (h : Reads r text follow P) (hend : follow []) :
    ∃ a, readAll r text = .ok a ∧ P a := by
  have hat : (Cursor.start text).At (text ++ []) := by
    rw [List.append_nil]
    exact ⟨rfl, Nat.le_refl _⟩
  obtain ⟨a, behind, hdone, ha, hbehind⟩ := h _ [] hat hend
  exact ⟨a, readAll_of_done hdone hbehind.rest, ha⟩

end Reader.Reads

/-! ## Any value -/

open Reader

/-- A value from its first character on, with an allowance for nesting. -/
def readValueFrom (allowed : Nat) (x : Char) : Reader Value :=
  match x with
  | 'n' => do skip; readWord "ull".toList; done .null
  | 't' => do skip; readWord "rue".toList; done (.bool true)
  | 'f' => do skip; readWord "alse".toList; done (.bool false)
  | '-' => do skip; done (.number (← readNumber true))
  | '"' => do skip; done (.string (← readString))
  | '[' =>
    match allowed with
    | 0 => failNext .tooDeep
    | n + 1 => do
      skip
      let values ← items (readValue n)
      closeList
      done (.array values)
  | '{' =>
    match allowed with
    | 0 => failNext .tooDeep
    | n + 1 => do
      skip
      let entries ← members
        (fun name m => do colon; done (m.insert name (← readValue n))) NameMap.empty
      closeObject
      done (.object entries.entries)
  | x =>
    if x.isDigit then do done (.number (← readNumber false))
    else failNext .expectedValue

theorem readValue_eq (allowed : Nat) :
    readValue allowed = (do
      match ← peekSolid with
      | none => failHere .endInValue
      | some x => readValueFrom allowed x) := by
  funext c
  show _ = (match c.skipSpace.rest.head? with
      | none => failHere .endInValue
      | some x => readValueFrom allowed x) c.skipSpace
  rw [readValue.eq_def]
  dsimp only
  cases c.skipSpace.rest with
  | nil => rfl
  | cons x xs =>
      dsimp only [List.head?_cons]
      split
      · rfl
      · rfl
      · rfl
      · rfl
      · rfl
      · cases allowed <;> rfl
      · cases allowed <;> rfl
      · rw [readValueFrom]
        · split <;> rfl
        all_goals assumption
end Daybook.Json
