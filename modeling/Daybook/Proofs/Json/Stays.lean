import Daybook.Proofs.Json.Places

/-!
# Readers stay in their text

Every reader of a JSON text stays in the text it starts in, whatever it reads and however it fails
(`stays_read` for records, `stays_readValue` for any value). So a fault is where some bytes of the
text end (`place_in_of_readAll`).

The proofs have the shape of the readers. A reader that loops is followed through its fuel; one that
matches on the outcome of another is that one and then the rest.
-/

namespace Daybook.Json

open Reader

variable {α β σ : Type}

/-! ## Words and texts -/

theorem stays_readWord : ∀ word : List Char, Stays (readWord word)
  | [] => .done
  | x :: xs => by
      unfold readWord
      refine .bind .peek fun next => ?_
      split
      · exact .failHere
      · split
        · exact .skipThen (stays_readWord xs)
        · exact .failNext

theorem stays_readHex4 : Stays readHex4 := by
  intro text c hc
  unfold readHex4
  split
  · split
    · exact hc.next.next.next.next
    · exact hc.advance 4
  · split
    · exact (hc.skipWhile _).place
    · exact hc.advance 4

theorem stays_readEscapePart (x : Char) : Stays (readEscapePart x) := by
  unfold readEscapePart
  refine .bind .peek fun next => ?_
  split
  · exact .failHere
  · split
    · exact .skip
    · exact .failNext

theorem stays_readCodeUnit : Stays readCodeUnit := by
  unfold readCodeUnit
  refine .bind stays_readHex4 fun n => ?_
  split
  · exact .failHere
  · split
    · exact .done
    · refine .bind (stays_readEscapePart _) fun _ => .bind (stays_readEscapePart _) fun _ =>
        .bind stays_readHex4 fun m => ?_
      split
      · exact .failHere
      · exact .done

theorem stays_readEscape : Stays readEscape := by
  unfold readEscape
  refine .bind .peek fun next => ?_
  split
  · exact .failHere
  · split
    all_goals
      first
      | exact .skipThen .done
      | exact .skipThen stays_readCodeUnit
      | exact .failNext

theorem stays_readStringFrom (fuel : Nat) (passed : List Char) :
    Stays (readStringFrom fuel passed) := by
  induction fuel generalizing passed with
  | zero => exact .failHere
  | succ fuel ih =>
      intro text c hc
      rw [readStringFrom]
      split
      · exact hc.place
      · exact hc.next
      · have hin := stays_readEscape text _ hc.next
        generalize readEscape c.next = o at hin
        cases o with
        | done x behind => exact ih _ _ _ hin
        | refused problem seen => exact hin
        | failed fault => exact hin
      · split
        · exact hc.nextPlace
        · exact ih _ _ _ hc.next

theorem stays_readString : Stays readString :=
  fun text c hc => stays_readStringFrom c.bound [] text c hc

theorem stays_skipEscape : Stays skipEscape := by
  unfold skipEscape
  refine .bind .peek fun next => ?_
  split
  · exact .failHere
  · split
    · exact .skipThen (stays_readHex4.bind fun _ => .done)
    · split
      · exact .skip
      · exact .failNext

theorem stays_skipStringFrom (fuel : Nat) : Stays (skipStringFrom fuel) := by
  induction fuel with
  | zero => exact .failHere
  | succ fuel ih =>
      intro text c hc
      rw [skipStringFrom]
      split
      · exact hc.place
      · exact hc.next
      · have hin := stays_skipEscape text _ hc.next
        generalize skipEscape c.next = o at hin
        cases o with
        | done x behind => exact ih _ _ hin
        | refused problem seen => exact hin
        | failed fault => exact hin
      · split
        · exact hc.place
        · exact ih _ _ hc.next

theorem stays_skipString : Stays skipString :=
  fun text c hc => stays_skipStringFrom c.bound text c hc

/-! ## Numbers -/

theorem stays_wantDigit : Stays (wantDigit : Reader α) := by
  unfold wantDigit
  refine .bind .peek fun next => ?_
  split
  · exact .failHere
  · exact .failNext

theorem stays_readDigits {missing : Reader (List Char)} (h : Stays missing) :
    Stays (readDigits missing) := by
  intro text c hc
  unfold readDigits
  split
  · exact h text c hc
  · rename_i behind _ hdigits
    obtain ⟨-, rfl⟩ := Prod.mk.inj hdigits
    exact hc.skipWhile _

theorem stays_readWhole : Stays readWhole := by
  unfold readWhole
  refine .bind .peek fun next => ?_
  split
  · refine .skipThen (.bind .peek fun next => ?_)
    split
    · split
      · exact .failNext
      · exact .done
    · exact .done
  · exact stays_readDigits stays_wantDigit

theorem stays_readExponent (isZero : Bool) : Stays (readExponent isZero) := by
  -- an exponent that is too large is noticed at one of its digits, counted from where they begin
  have hrest : ∀ sign, Stays (do
      let start : Cursor ← fun c => .done c c
      exponentOf isZero sign start (← readDigits wantDigit)) := by
    intro sign text c hc
    have hin := stays_readDigits stays_wantDigit text c hc
    show (Reader.andThen (readDigits wantDigit) (exponentOf isZero sign c) c).In text
    unfold Reader.andThen
    generalize readDigits wantDigit c = o at hin
    cases o with
    | refused problem seen => exact hin
    | failed fault => exact hin
    | done ds behind =>
        dsimp only
        unfold exponentOf
        cases digitsUntilTooLarge 0 0 ds with
        | none => exact hin
        | some used =>
            cases !isZero && sign != some '-' with
            | true => exact hc.advance used
            | false => exact hin
  rw [readExponent_eq]
  refine .bind .peek fun sign => ?_
  split
  · exact .skipThen (hrest _)
  · exact .skipThen (hrest _)
  · exact hrest _

theorem stays_numberOr (n : Option Number) : Stays (numberOr n) := by
  cases n with
  | some n => exact .done
  | none => exact .failHere

theorem stays_readScaled (negative : Bool) (whole : List Char) (fraction : Option (List Char)) :
    Stays (readScaled negative whole fraction) := by
  refine .bind .peek fun mark => ?_
  split
  · refine .skipThen ((stays_readExponent _).bind fun e => ?_)
    cases e with
    | none => exact .done
    | some e => exact stays_numberOr _
  · exact stays_numberOr _

theorem stays_readNumber (negative : Bool) : Stays (readNumber negative) := by
  rw [readNumber_eq]
  refine stays_readWhole.bind fun whole => .bind .peek fun next => ?_
  split
  · exact .skipThen ((stays_readDigits stays_wantDigit).bind fun ds => stays_readScaled _ _ _)
  · exact stays_readScaled _ _ _

theorem stays_skipNumber : Stays skipNumber := by
  have hdigits : Stays (readDigits (failNext .invalidNumber)) := stays_readDigits .failNext
  have hscaled : Stays (do
      let mark ← peek
      if mark == some 'e' || mark == some 'E' then
        skip
        let sign ← peek
        if sign == some '+' || sign == some '-' then skip
        let _ ← readDigits (failNext .invalidNumber)) := by
    refine .bind .peek fun mark => ?_
    split
    · refine .skipThen (.bind .peek fun sign => ?_)
      split
      · exact .skipThen (hdigits.bind fun _ => .done)
      · exact hdigits.bind fun _ => .done
    · exact .done
  have hbehind : ∀ point : Option Char, Stays (do
      if point == some '.' then
        skip
        let _ ← readDigits (failNext .invalidNumber)
      let mark ← peek
      if mark == some 'e' || mark == some 'E' then
        skip
        let sign ← peek
        if sign == some '+' || sign == some '-' then skip
        let _ ← readDigits (failNext .invalidNumber)) := by
    intro point
    dsimp only
    split
    · exact .skipThen (hdigits.bind fun _ => hscaled)
    · exact hscaled
  unfold skipNumber
  refine .bind .peek fun next => ?_
  dsimp only
  split
  · exact stays_readWhole.bind fun _ => .bind .peek hbehind
  · exact Stays.failHere.bind fun _ => .bind .peek hbehind

/-! ## Containers -/

theorem stays_closeList : Stays closeList := by
  unfold closeList
  refine .bind .peekSolid fun next => ?_
  split
  · exact .failHere
  · exact .skip
  · refine .skipThen (.bind .peekSolid fun next => ?_)
    split <;> exact .failNext
  · exact .failNext

theorem stays_closeObject : Stays closeObject := by
  unfold closeObject
  refine .bind .peekSolid fun next => ?_
  split
  · exact .failHere
  · exact .skip
  · exact .failNext
  · exact .failNext

theorem stays_inList {inner : Nat → Reader α} (h : ∀ n, Stays (inner n)) (allowed : Nat) :
    Stays (inList allowed inner) := by
  cases allowed with
  | zero => exact .failNext
  | succ n =>
      refine .skipThen (((h n).placing fun hc => hc.pastListEnd).bind fun a => ?_)
      exact stays_closeList.bind fun _ => .done

theorem stays_inObject {inner : Nat → Reader α} (h : ∀ n, Stays (inner n)) (allowed : Nat) :
    Stays (inObject allowed inner) := by
  cases allowed with
  | zero => exact .failNext
  | succ n =>
      refine .skipThen (((h n).placing fun hc => hc.pastObjectEnd).bind fun a => ?_)
      exact stays_closeObject.bind fun _ => .done

theorem stays_hasItem (first : Bool) : Stays (hasItem first) := by
  unfold hasItem
  refine .bind .peekSolid fun next => ?_
  split
  · exact .failHere
  · exact .done
  · split
    · exact .done
    · split
      · refine .skipThen (.bind .peekSolid fun next => ?_)
        split
        · exact .failHere
        · exact .failNext
        · exact .done
      · exact .failNext

theorem stays_hasMember (first : Bool) : Stays (hasMember first) := by
  unfold hasMember
  refine .bind .peekSolid fun next => ?_
  split
  · exact .failHere
  · exact .done
  · split
    · split
      · exact .done
      · exact .failNext
    · split
      · refine .skipThen (.bind .peekSolid fun next => ?_)
        split
        · exact .failHere
        · exact .done
        · exact .failNext
        · exact .failNext
      · exact .failNext

theorem stays_memberName : Stays memberName :=
  .skipThen stays_readString

theorem stays_colon : Stays colon := by
  unfold colon
  refine .bind .peekSolid fun next => ?_
  split
  · exact .failHere
  · exact .skip
  · exact .failNext

theorem stays_itemsFrom {item : Reader α} (h : Stays item) (fuel : Nat) (passed : List α) :
    Stays (itemsFrom item fuel passed) := by
  induction fuel generalizing passed with
  | zero => exact .failHere
  | succ fuel ih =>
      rw [itemsFrom_succ]
      refine (stays_hasItem _).bind fun more => ?_
      split
      · exact h.bind fun a => ih (a :: passed)
      · exact .done

theorem stays_items {item : Reader α} (h : Stays item) : Stays (items item) :=
  fun text c hc => stays_itemsFrom h c.bound [] text c hc

theorem stays_membersFrom {member : String → σ → Reader σ} (h : ∀ name s, Stays (member name s))
    (fuel : Nat) (first : Bool) (state : σ) : Stays (membersFrom member fuel first state) := by
  induction fuel generalizing first state with
  | zero => exact .failHere
  | succ fuel ih =>
      rw [membersFrom_succ]
      refine (stays_hasMember _).bind fun more => ?_
      split
      · exact stays_memberName.bind fun name => (h name state).bind fun state' => ih false state'
      · exact .done

theorem stays_members {member : String → σ → Reader σ} (h : ∀ name s, Stays (member name s))
    (state : σ) : Stays (members member state) :=
  fun text c hc => stays_membersFrom h c.bound true state text c hc

/-! ## Any value -/

theorem stays_insertMember {value : Reader α} (h : Stays value) (name : String) (m : NameMap α) :
    Stays (do colon; done (m.insert name (← value))) :=
  stays_colon.bind fun _ => h.bind fun _ => .done

theorem stays_readValueFrom {allowed : Nat} (h : ∀ n, allowed = n + 1 → Stays (readValue n))
    (x : Char) : Stays (readValueFrom allowed x) := by
  unfold readValueFrom
  split
  · exact .skipThen ((stays_readWord _).bind fun _ => .done)
  · exact .skipThen ((stays_readWord _).bind fun _ => .done)
  · exact .skipThen ((stays_readWord _).bind fun _ => .done)
  · exact .skipThen ((stays_readNumber true).bind fun _ => .done)
  · exact .skipThen (stays_readString.bind fun _ => .done)
  · cases allowed with
    | zero => exact .failNext
    | succ n =>
        refine .skipThen ((stays_items (h n rfl)).bind fun values => ?_)
        exact stays_closeList.bind fun _ => .done
  · cases allowed with
    | zero => exact .failNext
    | succ n =>
        refine .skipThen ((stays_members (stays_insertMember (h n rfl)) _).bind fun entries => ?_)
        exact stays_closeObject.bind fun _ => .done
  · split
    · exact (stays_readNumber false).bind fun _ => .done
    · exact .failNext

theorem stays_readValue (allowed : Nat) : Stays (readValue allowed) := by
  rw [readValue_eq]
  refine .bind .peekSolid fun next => ?_
  split
  · exact .failHere
  · exact stays_readValueFrom (fun n hn => stays_readValue n) _

/-! ## Values of a wanted kind -/

theorem stays_wrongType (expected : String) : Stays (wrongType expected : Reader α) := by
  unfold wrongType
  refine .bind .peekSolid fun next => ?_
  split
  · exact .failHere
  · exact .skipThen ((stays_readWord _).bind fun _ => .failHere)
  · exact .skipThen ((stays_readWord _).bind fun _ => .failHere)
  · exact .skipThen ((stays_readWord _).bind fun _ => .failHere)
  · exact .skipThen ((stays_readNumber true).bind fun _ => .failHere)
  · exact .skipThen (stays_readString.bind fun _ => .failHere)
  · exact .failHere
  · exact .failHere
  · split
    · exact (stays_readNumber false).bind fun _ => .failHere
    · exact .failNext

theorem stays_readTextAs (expected : String) (convert : String → Except String α) :
    Stays (readTextAs expected convert) := by
  unfold readTextAs
  refine .bind .peekSolid fun next => ?_
  split
  · exact .failHere
  · refine .skipThen (stays_readString.bind fun s => ?_)
    split
    · exact .done
    · exact .failHere
  · exact stays_wrongType expected

theorem stays_readText : Stays readText :=
  stays_readTextAs _ _

theorem stays_readCount : Stays readCount := by
  unfold readCount
  refine .bind .peekSolid fun next => ?_
  split
  · exact .failHere
  · refine .skipThen ((stays_readNumber true).bind fun n => ?_)
    cases n with
    | integer value =>
        dsimp only
        split
        · exact .done
        · exact .failHere
    | float x => exact .failHere
  · split
    · refine (stays_readNumber false).bind fun n => ?_
      cases n with
      | integer value =>
          dsimp only
          split
          · exact .done
          · exact .failHere
      | float x => exact .failHere
    · exact stays_wrongType _

theorem stays_readOption {r : Reader α} (h : Stays r) : Stays (readOption r) := by
  unfold readOption
  refine .bind .peekSolid fun next => ?_
  split
  · exact .skipThen ((stays_readWord _).bind fun _ => .done)
  · exact h.bind fun _ => .done

theorem stays_readList {item : Nat → Reader α} (h : ∀ n, Stays (item n)) (allowed : Nat) :
    Stays (readList item allowed) := by
  unfold readList
  refine .bind .peekSolid fun next => ?_
  split
  · exact .failHere
  · exact stays_inList (fun n => stays_items (h n)) allowed
  · exact stays_wrongType _

theorem stays_readMap {value : Nat → Reader α} (h : ∀ n, Stays (value n)) (allowed : Nat) :
    Stays (readMap value allowed) := by
  unfold readMap
  refine .bind .peekSolid fun next => ?_
  split
  · exact .failHere
  · exact stays_inObject (fun n => stays_members (stays_insertMember (h n)) _) allowed
  · exact stays_wrongType _

theorem stays_readPair {first : Reader α} {second : Reader β} (hfirst : Stays first)
    (hsecond : Stays second) (allowed : Nat) : Stays (readPair first second allowed) := by
  unfold readPair
  refine .bind .peekSolid fun next => ?_
  split
  · exact .failHere
  · refine stays_inList (fun n => ?_) allowed
    refine (stays_hasItem true).bind fun more => ?_
    split
    · refine hfirst.bind fun a => (stays_hasItem false).bind fun more => ?_
      split
      · exact hsecond.bind fun _ => .done
      · exact .refuse
    · exact .refuse
  · exact stays_wrongType _

/-! ## Values that do not matter -/

theorem stays_skipScalar (x : Char) : Stays (skipScalar x) := by
  unfold skipScalar
  split
  · exact .skipThen (stays_readWord _)
  · exact .skipThen (stays_readWord _)
  · exact .skipThen (stays_readWord _)
  · exact .skipThen stays_skipNumber
  · exact .skipThen stays_skipString
  · split
    · exact stays_skipNumber
    · exact .failNext

theorem stays_skipName : Stays skipName := by
  unfold skipName
  refine .bind .peek fun next => ?_
  split
  · exact .failHere
  · exact .skipThen (stays_skipString.bind fun _ => stays_colon)
  · exact .failNext

theorem stays_skipFrom (fuel : Nat) (step : SkipStep) (lists : List Bool) :
    Stays (skipFrom fuel step lists) := by
  induction fuel generalizing step lists with
  | zero => exact .failHere
  | succ fuel ih =>
      intro text c hc
      have hhere := hc.skipSpace
      unfold skipFrom
      dsimp only
      cases step with
      | value =>
          dsimp only
          split
          · exact hhere.place
          · exact ih _ _ _ _ hhere.next
          · exact ih _ _ _ _ hhere.next
          · rename_i x rest _ _ _
            have hin := stays_skipScalar x text _ hhere
            generalize skipScalar x c.skipSpace = o at hin
            cases o with
            | done u behind => exact ih _ _ _ _ hin
            | refused problem seen => exact hin
            | failed fault => exact hin
      | name =>
          have hin := stays_skipName text _ hhere
          dsimp only
          generalize skipName c.skipSpace = o at hin
          cases o with
          | done u behind => exact ih _ _ _ _ hin
          | refused problem seen => exact hin
          | failed fault => exact hin
      | opened =>
          cases lists with
          | nil => exact hc
          | cons isList outer =>
              dsimp only
              split
              · exact hhere.place
              · exact .ite (ih _ _ _ _ hhere.next) (ih _ _ _ _ hhere)
      | behind =>
          cases lists with
          | nil => exact hc
          | cons isList outer =>
              dsimp only
              split
              · exact hhere.place
              · exact .ite (ih _ _ _ _ hhere.next)
                  (.ite (ih _ _ _ _ hhere.next) hhere.nextPlace)

theorem stays_skipValue : Stays skipValue :=
  fun text c hc => stays_skipFrom _ _ _ text c hc

/-! ## Records -/

namespace Record

variable {r : Record σ}

theorem stays_member (h : ∀ field ∈ r.fields, ∀ n s, Stays (field.read n s)) (allowed : Nat)
    (name : String) (state : List String × σ) : Stays (r.member allowed name state) := by
  unfold member
  split
  · exact stays_colon.bind fun _ => stays_skipValue.bind fun _ => .done
  · rename_i field hfield
    split
    · exact .refuse
    · refine stays_colon.bind fun _ => ?_
      exact (h field (List.mem_of_find?_eq_some hfield) _ _).bind fun _ => .done

theorem stays_fieldsInOrder {fields : List (Field σ)} (allowed index : Nat) (draft : σ)
    (h : ∀ field ∈ fields, ∀ n s, Stays (field.read n s)) :
    Stays (r.fieldsInOrder allowed index draft fields) := by
  induction fields generalizing index draft with
  | nil => exact .done
  | cons field rest ih =>
      unfold fieldsInOrder
      refine (stays_hasItem _).bind fun more => ?_
      split
      · refine (h field List.mem_cons_self _ _).bind fun draft' => ?_
        exact ih _ _ fun field' hfield' => h field' (List.mem_cons_of_mem field hfield')
      · split
        · exact .done
        · exact .refuse

/-- If the fields of a record are read in the text, so is the record. -/
theorem stays_read (h : ∀ field ∈ r.fields, ∀ n s, Stays (field.read n s))
    (finish : σ → Except Problem α) (allowed : Nat) : Stays (r.read finish allowed) := by
  unfold read
  refine .bind .peekSolid fun next => ?_
  split
  · exact .failHere
  · refine stays_inList (fun n => ?_) allowed
    refine (stays_fieldsInOrder n 0 r.blank h).bind fun draft => ?_
    dsimp only
    split
    · exact .done
    · exact .refuse
  · refine stays_inObject (fun n => ?_) allowed
    refine (stays_members (stays_member h n) _).bind fun state => ?_
    dsimp only
    split
    · exact .done
    · exact .refuse
  · exact stays_wrongType _

end Record

/-! ## Whole texts -/

/-- A fault of a whole text is where some bytes of it end. -/
theorem place_in_of_readAll {r : Reader α} (h : Stays r) {text : List Char} {fault : Fault}
    (hfault : readAll r text = .error fault) : fault.place.In text := by
  have hin := h text _ (Cursor.In.start text)
  unfold readAll at hfault
  generalize r (Cursor.start text) = o at hin hfault
  cases o with
  | refused problem seen =>
      obtain rfl := Except.error.inj hfault
      exact hin.place
  | failed fault' =>
      obtain rfl := Except.error.inj hfault
      exact hin
  | done a behind =>
      dsimp only at hfault
      split at hfault
      · exact nomatch hfault
      · obtain rfl := Except.error.inj hfault
        exact hin.skipSpace.nextPlace

end Daybook.Json
