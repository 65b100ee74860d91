import Daybook.Json.Reader

/-!
# What readers give

A property of all that a reader gives, wherever it starts (`Reader.Gives`). The readers of
containers carry properties of their parts over to what they build: of the items to a list, of the
fields to a record, whose draft keeps an invariant from field to field (`Record.gives_read`).
-/

namespace Daybook.Json

open Reader

/-- Whether all that a reader gives has a property, wherever it starts. -/
def Reader.Gives {α : Type} (r : Reader α) (P : α → Prop) : Prop :=
  ∀ c a behind, r c = .done a behind → P a

/-- Reading one thing after the other succeeds by way of both. -/
theorem Reader.bind_eq_done {α β : Type} {r : Reader α} {f : α → Reader β} {c behind : Cursor}
    {b : β} (h : (r >>= f) c = .done b behind) :
    ∃ a mid, r c = .done a mid ∧ f a mid = .done b behind := by
  have h : r.andThen f c = .done b behind := h
  unfold Reader.andThen at h
  split at h
  · rename_i a mid ha
    exact ⟨a, mid, ha, h⟩
  · exact nomatch h
  · exact nomatch h

theorem Reader.thenDone_eq_done {α β : Type} {r : Reader α} {g : α → β} {c behind : Cursor}
    {b : β} (h : (r >>= fun a => Reader.done (g a)) c = .done b behind) :
    ∃ a, r c = .done a behind ∧ g a = b := by
  obtain ⟨a, mid, ha, hb⟩ := bind_eq_done h
  obtain ⟨hgb, rfl⟩ := Outcome.done.inj hb
  exact ⟨a, ha, hgb⟩

theorem Reader.bind_of_done {α β : Type} {r : Reader α} {f : α → Reader β} {c mid : Cursor}
    {a : α} (h : r c = .done a mid) : (r >>= f) c = f a mid := by
  show r.andThen f c = _
  unfold Reader.andThen
  rw [h]

namespace Reader.Gives

variable {α β : Type} {P : α → Prop} {Q : β → Prop} {r : Reader α}

theorem done {a : α} (h : P a) : Gives (Reader.done a) P := by
  intro c b behind hb
  obtain ⟨rfl, -⟩ := Outcome.done.inj hb
  exact h

theorem failHere {problem : Problem} : Gives (Reader.failHere problem : Reader α) P :=
  fun _ _ _ h => nomatch h

theorem failNext {problem : Problem} : Gives (Reader.failNext problem : Reader α) P :=
  fun _ _ _ h => nomatch h

theorem refuse {problem : Problem} : Gives (Reader.refuse problem : Reader α) P :=
  fun _ _ _ h => nomatch h

theorem trivial : Gives r (fun _ => True) :=
  fun _ _ _ _ => True.intro

theorem imp {P' : α → Prop} (h : Gives r P) (hP : ∀ a, P a → P' a) : Gives r P' :=
  fun c a behind ha => hP a (h c a behind ha)

theorem bind {f : α → Reader β} (hr : Gives r P) (hf : ∀ a, P a → Gives (f a) Q) :
    Gives (r >>= f) Q := by
  intro c b behind hb
  obtain ⟨a, mid, ha, hb⟩ := bind_eq_done hb
  exact hf a (hr c a mid ha) mid b behind hb

/-- What comes first need not be known. -/
theorem after {f : α → Reader β} (hf : ∀ a, Gives (f a) Q) : Gives (r >>= f) Q :=
  bind trivial fun a _ => hf a

theorem placing {past : Cursor → Cursor} (h : Gives r P) : Gives (placing past r) P := by
  intro c a behind ha
  unfold Json.placing at ha
  split at ha
  · exact nomatch ha
  · exact h c a behind ha

theorem of_readAll (h : Gives r P) {text : List Char} {a : α} (ha : readAll r text = .ok a) :
    P a := by
  unfold readAll at ha
  split at ha
  · exact nomatch ha
  · exact nomatch ha
  · rename_i value behind hvalue
    dsimp only at ha
    split at ha
    · obtain rfl := Except.ok.inj ha
      exact h _ _ _ hvalue
    · exact nomatch ha

end Reader.Gives

section

variable {α σ : Type} {P : α → Prop} {Inv : σ → Prop}

/-! ## Lists and objects -/

theorem gives_inList {inner : Nat → Reader α} {allowed : Nat}
    (h : ∀ n, allowed = n + 1 → Gives (inner n) P) : Gives (inList allowed inner) P := by
  cases allowed with
  | zero => exact .failNext
  | succ n =>
      refine .after fun _ => ((h n rfl).placing).bind fun a ha => ?_
      exact .after fun _ => .done ha

theorem gives_inObject {inner : Nat → Reader α} {allowed : Nat}
    (h : ∀ n, allowed = n + 1 → Gives (inner n) P) : Gives (inObject allowed inner) P := by
  cases allowed with
  | zero => exact .failNext
  | succ n =>
      refine .after fun _ => ((h n rfl).placing).bind fun a ha => ?_
      exact .after fun _ => .done ha

/-- One step of the loop over the items of a list. -/
theorem itemsFrom_succ (item : Reader α) (fuel : Nat) (passed : List α) :
    itemsFrom item (fuel + 1) passed = (do
      if ← hasItem passed.isEmpty then itemsFrom item fuel ((← item) :: passed)
      else done passed.reverse) := by
  funext c
  rw [itemsFrom]
  show _ = Reader.andThen (hasItem passed.isEmpty) _ c
  unfold Reader.andThen
  cases hasItem passed.isEmpty c with
  | refused problem seen => rfl
  | failed fault => rfl
  | done more behind =>
      cases more with
      | false => rfl
      | true =>
          dsimp only
          show _ = Reader.andThen item _ behind
          unfold Reader.andThen
          cases item behind <;> rfl

theorem gives_itemsFrom {item : Reader α} (h : Gives item P) (fuel : Nat) {passed : List α}
    (hpassed : ∀ a ∈ passed, P a) : Gives (itemsFrom item fuel passed) (∀ a ∈ ·, P a) := by
  induction fuel generalizing passed with
  | zero => exact .failHere
  | succ fuel ih =>
      rw [itemsFrom_succ]
      refine .after fun more => ?_
      split
      · exact h.bind fun a ha => ih (List.forall_mem_cons.mpr ⟨ha, hpassed⟩)
      · exact .done fun a ha => hpassed a (List.mem_reverse.mp ha)

theorem gives_items {item : Reader α} (h : Gives item P) : Gives (items item) (∀ a ∈ ·, P a) :=
  fun c _ _ has => gives_itemsFrom h c.bound (fun _ ha => absurd ha List.not_mem_nil) _ _ _ has

/-- One step of the loop over the members of an object. -/
theorem membersFrom_succ (member : String → σ → Reader σ) (fuel : Nat) (first : Bool) (state : σ) :
    membersFrom member (fuel + 1) first state = (do
      if ← hasMember first then
        let name ← memberName
        membersFrom member fuel false (← member name state)
      else done state) := by
  funext c
  rw [membersFrom]
  show _ = Reader.andThen (hasMember first) _ c
  unfold Reader.andThen
  cases hasMember first c with
  | refused problem seen => rfl
  | failed fault => rfl
  | done more behind =>
      cases more with
      | false => rfl
      | true =>
          dsimp only
          show _ = Reader.andThen memberName _ behind
          unfold Reader.andThen
          cases memberName behind with
          | refused problem seen => rfl
          | failed fault => rfl
          | done name behind =>
              dsimp only
              show _ = Reader.andThen (member name state) _ behind
              unfold Reader.andThen
              cases member name state behind <;> rfl

theorem gives_membersFrom {member : String → σ → Reader σ}
    (h : ∀ name s, Inv s → Gives (member name s) Inv) (fuel : Nat) (first : Bool) {s : σ}
    (hs : Inv s) : Gives (membersFrom member fuel first s) Inv := by
  induction fuel generalizing first s with
  | zero => exact .failHere
  | succ fuel ih =>
      rw [membersFrom_succ]
      refine .after fun more => ?_
      split
      · exact .after fun name => (h name s hs).bind fun s' hs' => ih false hs'
      · exact .done hs

theorem gives_members {member : String → σ → Reader σ} {s : σ} (hs : Inv s)
    (h : ∀ name s, Inv s → Gives (member name s) Inv) : Gives (members member s) Inv :=
  fun c _ _ hs' => gives_membersFrom h c.bound true hs _ _ _ hs'

/-! ## Values of a wanted kind -/

theorem gives_wrongType (expected : String) : Gives (wrongType expected : Reader α) P := by
  unfold wrongType
  refine .after fun next => ?_
  split
  · exact .failHere
  · exact .after fun _ => .after fun _ => .failHere
  · exact .after fun _ => .after fun _ => .failHere
  · exact .after fun _ => .after fun _ => .failHere
  · exact .after fun _ => .after fun _ => .failHere
  · exact .after fun _ => .after fun _ => .failHere
  · exact .failHere
  · exact .failHere
  · split
    · exact .after fun _ => .failHere
    · exact .failNext

theorem gives_readTextAs {expected : String} {convert : String → Except String α}
    (h : ∀ s a, convert s = .ok a → P a) : Gives (readTextAs expected convert) P := by
  unfold readTextAs
  refine .after fun next => ?_
  split
  · exact .failHere
  · refine .after fun _ => .after fun s => ?_
    split
    · rename_i value hvalue
      exact .done (h s value hvalue)
    · exact .failHere
  · exact gives_wrongType expected

theorem gives_readList {item : Nat → Reader α} {allowed : Nat}
    (h : ∀ n, allowed = n + 1 → Gives (item n) P) :
    Gives (readList item allowed) (∀ a ∈ ·, P a) := by
  unfold readList
  refine .after fun next => ?_
  split
  · exact .failHere
  · exact gives_inList fun n hn => gives_items (h n hn)
  · exact gives_wrongType _

/-! ## Maps -/

/-- What is inserted into a map may be anything with the property of what is there. -/
theorem forall_insert {m : NameMap α} {name : String} {a : α}
    (hm : ∀ e ∈ m.entries, P e.2) (ha : P a) : ∀ e ∈ (m.insert name a).entries, P e.2 := by
  intro e he
  rcases of_mem_insertEntry he with h | h
  · rw [h]
    exact ha
  · exact hm e h

theorem gives_members_insert {value : Reader α} (h : Gives value P) :
    Gives (members (fun name (m : NameMap α) => do colon; done (m.insert name (← value)))
      NameMap.empty) (fun m => ∀ e ∈ m.entries, P e.2) :=
  gives_members (fun _ he => (nomatch he)) fun _ _ hm =>
    .after fun _ => h.bind fun _ ha => .done (forall_insert hm ha)

theorem gives_readMap {value : Nat → Reader α} {allowed : Nat}
    (h : ∀ n, allowed = n + 1 → Gives (value n) P) :
    Gives (readMap value allowed) (fun m => ∀ e ∈ m.entries, P e.2) := by
  unfold readMap
  refine .after fun next => ?_
  split
  · exact .failHere
  · exact gives_inObject fun n hn => gives_members_insert (h n hn)
  · exact gives_wrongType _

/-! ## Records -/

namespace Record

variable {r : Record σ}

theorem gives_member {allowed : Nat}
    (h : ∀ field ∈ r.fields, ∀ s, Inv s → Gives (field.read allowed s) Inv) (name : String)
    (state : List String × σ) (hstate : Inv state.2) :
    Gives (r.member allowed name state) (fun state' => Inv state'.2) := by
  unfold member
  split
  · exact .after fun _ => .after fun _ => .done hstate
  · rename_i field hfield
    split
    · exact .refuse
    · refine .after fun _ => (h field (List.mem_of_find?_eq_some hfield) _ hstate).bind ?_
      exact fun draft hdraft => .done hdraft

theorem gives_fieldsInOrder {allowed : Nat} : ∀ {fields : List (Field σ)} (index : Nat) {draft : σ},
    (∀ field ∈ fields, ∀ s, Inv s → Gives (field.read allowed s) Inv) → Inv draft →
      Gives (r.fieldsInOrder allowed index draft fields) Inv
  | [], _, _, _, hdraft => .done hdraft
  | field :: rest, index, draft, h, hdraft => by
      unfold fieldsInOrder
      refine .after fun more => ?_
      split
      · refine (h field List.mem_cons_self draft hdraft).bind fun draft' hdraft' => ?_
        exact gives_fieldsInOrder (index + 1)
          (fun field' hfield' => h field' (List.mem_cons_of_mem field hfield')) hdraft'
      · split
        · exact .done hdraft
        · exact .refuse

/-- If every field keeps an invariant of the draft, what is finished comes from a draft of it. -/
theorem gives_read {finish : σ → Except Problem α} {allowed : Nat} (hblank : Inv r.blank)
    (hfields : ∀ field ∈ r.fields, ∀ n, allowed = n + 1 → ∀ s, Inv s →
      Gives (field.read n s) Inv)
    (hfinish : ∀ s a, Inv s → finish s = .ok a → P a) : Gives (r.read finish allowed) P := by
  unfold read
  refine .after fun next => ?_
  split
  · exact .failHere
  · refine gives_inList fun n hn => Gives.bind (P := Inv) ?_ fun s hs => ?_
    · exact gives_fieldsInOrder 0 (fun field hfield => hfields field hfield n hn) hblank
    · dsimp only
      split
      · rename_i value hvalue
        exact .done (hfinish s value hs hvalue)
      · exact .refuse
  · refine gives_inObject fun n hn => Gives.bind (P := fun s => Inv s.2) ?_ fun s hs => ?_
    · exact gives_members hblank
        fun name s => gives_member (fun field hfield => hfields field hfield n hn) name s
    · dsimp only
      split
      · rename_i value hvalue
        exact .done (hfinish s.2 value hs hvalue)
      · exact .refuse
  · exact gives_wrongType _

end Record

end

end Daybook.Json
