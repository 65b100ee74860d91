import Mathlib.Data.List.Forall2
import Daybook.Proofs.Json.Texts

/-!
# Reading containers

The items and members of a container that is spread over lines are read one by one. Each stands
behind a line break, and behind a comma if it is not the first (`spreadParts`). The state that
members are taken into is followed from member to member (`ReadsMembers`); that of a map has an
entry for every member so far (`readsMembers_insert`).
-/

namespace Daybook.Json

open Reader

/-- What stands in front of a part of a container: a comma, if it is not the first, and `line`. -/
def lead (line : List Char) (first : Bool) : List Char :=
  if first then line else ',' :: line

/-- Parts of a container, one behind the other. -/
def spreadParts (line : List Char) : Bool → List (List Char) → List Char
  | _, [] => []
  | first, part :: parts => lead line first ++ (part ++ spreadParts line false parts)

variable {α β σ : Type} {line close : List Char} {follow : List Char → Prop} {P : α → Prop}

theorem length_le_spreadParts (line : List Char) : ∀ (first : Bool) (parts : List (List Char)),
    (∀ part ∈ parts, part ≠ []) → parts.length ≤ (spreadParts line first parts).length
  | _, [], _ => Nat.le_refl _
  | first, part :: parts, h => by
      have hrest := length_le_spreadParts line false parts
        fun part' hpart' => h part' (List.mem_cons_of_mem part hpart')
      have hpart : 0 < part.length := List.length_pos_iff.mpr (h part List.mem_cons_self)
      rw [spreadParts, List.length_append, List.length_append, List.length_cons]
      omega

/-- What stands behind a part of a container does not go on a number. -/
theorem ends_spreadParts {rest : List Char} (hrest : Ends rest) (parts : List (List Char)) :
    Ends (spreadParts line false parts ++ rest) := by
  cases parts with
  | nil => exact hrest
  | cons part parts => exact ends_cons (by decide) _

/-! ## Lists -/

theorem reads_closeList (hclose : Blank close) :
    Reads closeList (close ++ [']']) follow (fun _ => True) :=
  .peekSolid hclose (by decide) .skip

theorem reads_hasItem_end (hclose : Blank close) (first : Bool) :
    Reads (hasItem first) close (Starts ']') (· = false) := by
  refine .peekFollow hclose fun rest hrest => ?_
  obtain ⟨xs, rfl⟩ := List.head?_eq_some_iff.mp hrest
  exact ⟨']', xs, rfl, by decide, .done rfl⟩

theorem reads_hasItem_lead (hline : Blank line) (first : Bool) :
    Reads (hasItem first) (lead line first) Opens (· = true) := by
  cases first with
  | true =>
      refine .peekFollow hline fun rest ⟨x, xs, hrest, hx, hlist, _⟩ => ⟨x, xs, hrest, hx, ?_⟩
      split
      · rename_i h
        exact nomatch h
      · rename_i h
        exact absurd (Option.some.inj h) hlist
      · rw [if_pos rfl]
        exact .done rfl
  | false =>
      refine .solid (by decide) (.skipThen (.peekFollow hline ?_))
      intro rest ⟨x, xs, hrest, hx, hlist, _⟩
      refine ⟨x, xs, hrest, hx, ?_⟩
      split
      · rename_i h
        exact nomatch h
      · rename_i h
        exact absurd (Option.some.inj h) hlist
      · exact .done rfl

section

variable {item : Reader α} {text : β → List Char} {R : α → β → Prop} (hline : Blank line)
  (hclose : Blank close)

include hline hclose

/-- Items are read one by one, up to the bracket behind them. -/
theorem itemsFrom_spread : ∀ (bs : List β) (passed : List α) (fuel : Nat) {c : Cursor}
    {rest : List Char}, (∀ b ∈ bs, Reads item (text b) Ends (R · b) ∧ Opens (text b)) →
      bs.length < fuel →
      c.At (spreadParts line passed.isEmpty (bs.map text) ++ (close ++ ']' :: rest)) →
      ∃ as behind, itemsFrom item fuel passed c = .done (passed.reverse ++ as) behind
        ∧ List.Forall₂ R as bs ∧ behind.At (']' :: rest)
  | _, _, 0, _, _, _, hfuel, _ => (nomatch hfuel)
  | [], passed, fuel + 1, c, rest, _, _, hat => by
      obtain ⟨_, behind, hdone, rfl, hbehind⟩ := reads_hasItem_end hclose passed.isEmpty c _ hat rfl
      refine ⟨[], behind, ?_, .nil, hbehind⟩
      rw [itemsFrom, hdone, List.append_nil]
  | b :: bs, passed, fuel + 1, c, rest, h, hfuel, hat => by
      obtain ⟨hitem, hopens⟩ := h b List.mem_cons_self
      have hend : Ends (close ++ ']' :: rest) := ends_of_blank hclose (ends_cons (by decide) _)
      rw [List.map_cons, spreadParts, List.append_assoc, List.append_assoc] at hat
      obtain ⟨_, behind₁, hmore, rfl, hbehind₁⟩ := reads_hasItem_lead hline passed.isEmpty c _ hat
        (by obtain ⟨x, xs, htext, hx⟩ := hopens
            exact ⟨x, _, by rw [htext]; rfl, hx⟩)
      obtain ⟨a, behind₂, hdone, ha, hbehind₂⟩ := hitem behind₁ _ hbehind₁
        (ends_spreadParts hend _)
      obtain ⟨as, behind, hrest, has, hbehind⟩ := itemsFrom_spread bs (a :: passed) fuel
        (fun b' hb' => h b' (List.mem_cons_of_mem b hb')) (Nat.lt_of_succ_lt_succ hfuel) hbehind₂
      refine ⟨a :: as, behind, ?_, .cons ha has, hbehind⟩
      rw [itemsFrom, hmore]
      dsimp only
      rw [hdone]
      dsimp only
      rw [hrest, List.reverse_cons, List.append_assoc]
      rfl

theorem reads_items (text : β → List Char) (R : α → β → Prop) (bs : List β)
    (h : ∀ b ∈ bs, Reads item (text b) Ends (R · b) ∧ Opens (text b)) :
    Reads (items item) (spreadParts line true (bs.map text) ++ close) (Starts ']')
      (List.Forall₂ R · bs) := by
  intro c rest hat hrest
  obtain ⟨xs, rfl⟩ := List.head?_eq_some_iff.mp hrest
  rw [List.append_assoc] at hat
  -- every item takes a character at least, so the size of the text bounds their number
  have hlength := length_le_spreadParts line true (bs.map text) fun part hpart => by
    obtain ⟨b, hb, rfl⟩ := List.mem_map.mp hpart
    obtain ⟨x, xs, htext, -⟩ := (h b hb).2
    rw [htext]
    exact List.cons_ne_nil x xs
  have hfuel : bs.length < c.bound := by
    have hfits := hat.fits
    rw [List.length_append] at hfits
    rw [List.length_map] at hlength
    unfold Cursor.bound
    omega
  exact itemsFrom_spread hline hclose bs [] c.bound h hfuel hat

end

theorem reads_inList {inner : Nat → Reader α} {body : List Char} {n : Nat}
    {follow' : List Char → Prop} (hclose : Blank close) (h : Reads (inner n) body follow' P)
    (hfollow : ∀ rest, follow' (close ++ ']' :: rest)) :
    Reads (inList (n + 1) inner) ('[' :: (body ++ (close ++ [']']))) follow P := by
  have hbracket : Reads closeList (close ++ [']']) follow (fun _ => True) := reads_closeList hclose
  refine .skipThen (h.placing.bind (fun a ha => hbracket.thenDone fun _ _ => ha) fun rest _ => ?_)
  rw [List.append_assoc]
  exact hfollow rest

theorem reads_readList {item : Nat → Reader α} {gap body : List Char} {n : Nat} {Q : List α → Prop}
    (hgap : Blank gap) (h : Reads (items (item n)) body (Starts ']') Q) :
    Reads (readList item (n + 1)) (gap ++ '[' :: (body ++ [']'])) follow Q :=
  .peekSolid hgap (by decide) (reads_inList blank_nil h fun _ => rfl)

/-- A list of two items. -/
theorem reads_readPair {first : Reader α} {second : Reader β} {gap text text' : List Char} {n : Nat}
    {Q : β → Prop} (hgap : Blank gap) (hline : Blank line) (hclose : Blank close)
    (hfirst : Reads first text Ends P) (hsecond : Reads second text' Ends Q)
    (hopens : Opens text) (hopens' : Opens text') :
    Reads (readPair first second (n + 1))
      (gap ++ '[' :: (spreadParts line true [text, text'] ++ close ++ [']'])) follow
      (fun p => P p.1 ∧ Q p.2) := by
  have hopens_append : ∀ {text rest : List Char}, Opens text → Opens (text ++ rest) := by
    rintro text rest ⟨x, xs, rfl, h⟩
    exact ⟨x, xs ++ rest, rfl, h⟩
  have hinner : Reads (do
      if ← hasItem true then
        let a ← first
        if ← hasItem false then
          done (a, ← second)
        else refuse (.wrongLength 1 "a tuple of size 2")
      else refuse (.wrongLength 0 "a tuple of size 2") : Reader (α × β))
      (spreadParts line true [text, text']) Ends (fun p => P p.1 ∧ Q p.2) := by
    refine (reads_hasItem_lead hline true).bind (fun more hmore => ?_) fun _ _ => ?_
    · subst hmore
      refine hfirst.bind (fun a ha => ?_) fun _ _ => ?_
      · refine (reads_hasItem_lead hline false).bind (fun more hmore => ?_) fun _ _ => ?_
        · subst hmore
          rw [spreadParts, List.append_nil]
          exact hsecond.thenDone fun b hb => ⟨ha, hb⟩
        · rw [List.append_assoc]
          exact hopens_append hopens'
      · exact ends_cons (by decide) _
    · rw [List.append_assoc]
      exact hopens_append hopens
  refine .peekSolid hgap (by decide) ?_
  rw [List.append_assoc]
  exact reads_inList hclose hinner fun rest => ends_of_blank hclose (ends_cons (by decide) rest)

/-! ## Objects -/

theorem reads_closeObject : Reads closeObject ['}'] follow (fun _ => True) :=
  .solid (by decide) .skip

theorem reads_hasMember_end (hclose : Blank close) (first : Bool) :
    Reads (hasMember first) close (Starts '}') (· = false) := by
  refine .peekFollow hclose fun rest hrest => ?_
  obtain ⟨xs, rfl⟩ := List.head?_eq_some_iff.mp hrest
  exact ⟨'}', xs, rfl, by decide, .done rfl⟩

theorem reads_hasMember_lead (hline : Blank line) (first : Bool) :
    Reads (hasMember first) (lead line first) (Starts '"') (· = true) := by
  cases first with
  | true =>
      refine .peekFollow hline fun rest hrest => ?_
      obtain ⟨xs, rfl⟩ := List.head?_eq_some_iff.mp hrest
      exact ⟨'"', xs, rfl, by decide, .done rfl⟩
  | false =>
      refine .solid (by decide) (.skipThen (.peekFollow hline fun rest hrest => ?_))
      obtain ⟨xs, rfl⟩ := List.head?_eq_some_iff.mp hrest
      exact ⟨'"', xs, rfl, by decide, .done rfl⟩

theorem reads_memberName (name : String) : Reads memberName (quotedText name) follow (· = name) :=
  .skipThen (reads_readString name)

/-- Whether members that are written one behind the other, each with the text behind its name, are
taken into a state with the property `P` so that it has the property `Q` in the end. -/
inductive ReadsMembers (member : String → σ → Reader σ) (Q : σ → Prop) :
    (σ → Prop) → List (String × List Char) → Prop
  | nil {P : σ → Prop} (h : ∀ s, P s → Q s) : ReadsMembers member Q P []
  | cons {P M : σ → Prop} {name : String} {text : List Char}
      {parts : List (String × List Char)}
      (h : ∀ s, P s → Reads (member name s) text Ends M)
      (rest : ReadsMembers member Q M parts) : ReadsMembers member Q P ((name, text) :: parts)

/-- A name and what stands behind it. -/
def memberText (part : String × List Char) : List Char :=
  quotedText part.1 ++ part.2

section

variable {member : String → σ → Reader σ} {P Q : σ → Prop} (hline : Blank line)
  (hclose : Blank close)

include hline hclose

/-- Members are read one by one, up to the brace behind them. -/
theorem membersFrom_spread {parts : List (String × List Char)} (h : ReadsMembers member Q P parts) :
    ∀ (first : Bool) (fuel : Nat) {s : σ} {c : Cursor} {rest : List Char}, P s →
      parts.length < fuel →
      c.At (spreadParts line first (parts.map memberText) ++ (close ++ '}' :: rest)) →
      ∃ s' behind, membersFrom member fuel first s c = .done s' behind ∧ Q s'
        ∧ behind.At ('}' :: rest) := by
  induction h with
  | @nil P hQ =>
      intro first fuel s c rest hs hfuel hat
      obtain ⟨fuel, rfl⟩ := Nat.exists_eq_succ_of_ne_zero (Nat.ne_of_gt hfuel)
      obtain ⟨_, behind, hdone, rfl, hbehind⟩ := reads_hasMember_end hclose first c _ hat rfl
      refine ⟨s, behind, ?_, hQ s hs, hbehind⟩
      rw [membersFrom, hdone]
  | @cons P M name text parts hmember hparts ih =>
      intro first fuel s c rest hs hfuel hat
      obtain ⟨fuel, rfl⟩ := Nat.exists_eq_succ_of_ne_zero (Nat.ne_of_gt (Nat.zero_lt_of_lt hfuel))
      have hend : Ends (close ++ '}' :: rest) := ends_of_blank hclose (ends_cons (by decide) _)
      rw [List.map_cons, spreadParts, List.append_assoc, List.append_assoc, memberText,
        List.append_assoc] at hat
      obtain ⟨_, behind₁, hmore, rfl, hbehind₁⟩ := reads_hasMember_lead hline first c _ hat rfl
      have hreads : Reads memberName (quotedText name) (fun _ => True) (· = name) :=
        reads_memberName name
      obtain ⟨_, behind₂, hname, rfl, hbehind₂⟩ := hreads behind₁ _ hbehind₁ trivial
      obtain ⟨s₁, behind₃, hdone, hs₁, hbehind₃⟩ := hmember s hs behind₂ _ hbehind₂
        (ends_spreadParts hend _)
      obtain ⟨s', behind, hrest, hs', hbehind⟩ := ih false fuel hs₁ (Nat.lt_of_succ_lt_succ hfuel)
        hbehind₃
      refine ⟨s', behind, ?_, hs', hbehind⟩
      rw [membersFrom, hmore]
      dsimp only
      rw [hname]
      dsimp only
      rw [hdone]
      exact hrest

theorem reads_members {parts : List (String × List Char)} (h : ReadsMembers member Q P parts)
    {s : σ} (hs : P s) :
    Reads (members member s) (spreadParts line true (parts.map memberText) ++ close) (Starts '}')
      Q := by
  intro c rest hat hrest
  obtain ⟨xs, rfl⟩ := List.head?_eq_some_iff.mp hrest
  rw [List.append_assoc] at hat
  have hlength := length_le_spreadParts line true (parts.map memberText)
    fun part hpart => by
      obtain ⟨_, _, rfl⟩ := List.mem_map.mp hpart
      exact List.cons_ne_nil _ _
  have hfuel : parts.length < c.bound := by
    have hfits := hat.fits
    rw [List.length_append] at hfits
    rw [List.length_map] at hlength
    unfold Cursor.bound
    omega
  exact membersFrom_spread hline hclose h true c.bound hs hfuel hat

end

theorem reads_inObject {inner : Nat → Reader α} {body : List Char} {n : Nat}
    (h : Reads (inner n) body (Starts '}') P) :
    Reads (inObject (n + 1) inner) ('{' :: (body ++ ['}'])) follow P := by
  have hclose : Reads closeObject ['}'] follow (fun _ => True) := reads_closeObject
  exact .skipThen (h.placing.bind (fun a ha => hclose.thenDone fun _ _ => ha) fun _ _ => rfl)

theorem reads_colon : Reads colon [':'] follow (fun _ => True) :=
  .solid (by decide) .skip

/-! ## Records -/

/-- A member whose name is that of a field, and was not there before, is read as that field. -/
theorem reads_member {r : Record σ} {field : Field σ} {allowed : Nat} {name : String}
    {names : List String} {draft : σ} {text : List Char} {Q : List String × σ → Prop}
    (hfield : r.fields.find? (·.name == name) = some field) (hnew : names.contains name = false)
    (hread : Reads (field.read allowed draft) text follow
      (fun draft' => Q (name :: names, draft'))) :
    Reads (r.member allowed name (names, draft)) (':' :: text) follow Q := by
  have hcolon : Reads colon [':'] (fun _ => True) (fun _ => True) := reads_colon
  unfold Record.member
  rw [hfield]
  dsimp only
  rw [hnew]
  exact hcolon.bind (fun _ _ => hread.thenDone fun _ hdraft => hdraft) fun _ _ => trivial

/-! ## Maps -/

/-- Whether two entries have one name and values that are related. -/
def SameEntry (R : α → β → Prop) (e : String × α) (b : String × β) : Prop :=
  e.1 = b.1 ∧ R e.2 b.2

/-- The text behind the name of a member, given the text of its value. -/
def behindName (text : List Char) : List Char :=
  ':' :: ' ' :: text

theorem names_of_same {R : α → β → Prop} {es : List (String × α)} {bs : List (String × β)}
    (h : List.Forall₂ (SameEntry R) es bs) : es.map (·.1) = bs.map (·.1) := by
  induction h with
  | nil => rfl
  | cons hsame _ ih => rw [List.map_cons, List.map_cons, hsame.1, ih]

theorem same_insert {R : α → β → Prop} {m : NameMap α} {passed : List (String × β)}
    {name : String} {a : α} {b : β} (hm : List.Forall₂ (SameEntry R) m.entries passed)
    (hlt : ∀ e ∈ passed, e.1 < name) (hab : R a b) :
    List.Forall₂ (SameEntry R) (m.insert name a).entries (passed ++ [(name, b)]) := by
  have hentries : ∀ e ∈ m.entries, e.1 < name := by
    intro e he
    have hname : e.1 ∈ passed.map (·.1) := by
      rw [← names_of_same hm]
      exact List.mem_map_of_mem he
    obtain ⟨e', he', hname⟩ := List.mem_map.mp hname
    rw [← hname]
    exact hlt e' he'
  show List.Forall₂ _ (insertEntry name a m.entries) _
  rw [insertEntry_of_lt hentries]
  exact List.rel_append hm (.cons ⟨rfl, hab⟩ .nil)

/-- Members that are ordered by name become the entries of a map one by one. -/
theorem readsMembers_insert (value : Reader α) (text : β → List Char) (R : α → β → Prop) :
    ∀ (rest passed : List (String × β)), (passed ++ rest).Pairwise (fun e e' => e.1 < e'.1) →
      (∀ e ∈ rest, Reads value (' ' :: text e.2) Ends (R · e.2)) →
      ReadsMembers (fun name (m : NameMap α) => do colon; done (m.insert name (← value)))
        (fun m => List.Forall₂ (SameEntry R) m.entries (passed ++ rest))
        (fun m => List.Forall₂ (SameEntry R) m.entries passed)
        (rest.map fun e => (e.1, behindName (text e.2)))
  | [], passed, _, _ => .nil fun m hm => by rw [List.append_nil]; exact hm
  | (name, b) :: rest, passed, hsorted, h => by
      have hsplit : passed ++ (name, b) :: rest = (passed ++ [(name, b)]) ++ rest := by simp
      have hlt : ∀ e ∈ passed, e.1 < name := fun e he =>
        (List.pairwise_append.mp hsorted).2.2 e he (name, b) List.mem_cons_self
      rw [hsplit] at hsorted ⊢
      have hrest := readsMembers_insert value text R rest _ hsorted
        fun e he => h e (List.mem_cons_of_mem _ he)
      refine .cons (fun m hm => ?_) hrest
      have hcolon : Reads colon [':'] (fun _ => True) (fun _ => True) := reads_colon
      refine hcolon.bind (fun _ _ => ?_) fun _ _ => trivial
      exact (h (name, b) List.mem_cons_self).thenDone fun a ha => same_insert hm hlt ha

theorem reads_readMap {value : Nat → Reader α} {gap : List Char} {n : Nat} (text : β → List Char)
    (R : α → β → Prop) {entries : List (String × β)} (hgap : Blank gap) (hline : Blank line)
    (hclose : Blank close) (hsorted : entries.Pairwise (fun e e' => e.1 < e'.1))
    (h : ∀ e ∈ entries, Reads (value n) (' ' :: text e.2) Ends (R · e.2)) :
    Reads (readMap value (n + 1))
      (gap ++ '{' :: (spreadParts line true
        (entries.map fun e => memberText (e.1, behindName (text e.2))) ++ close ++ ['}'])) follow
      (fun m => List.Forall₂ (SameEntry R) m.entries entries) := by
  have hmembers := readsMembers_insert (value n) text R entries [] hsorted h
  have hbody := reads_members hline hclose hmembers (s := NameMap.empty) .nil
  rw [List.map_map] at hbody
  exact .peekSolid hgap (by decide) (reads_inObject hbody)

end Daybook.Json
