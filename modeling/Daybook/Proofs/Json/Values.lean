import Daybook.Proofs.Json.Containers
import Daybook.Proofs.Json.Numerals

/-!
# Values that are read back

A value that was read fits the allowance for nesting it was read with (`gives_readValue`). Written
over several lines and read with that allowance again, it comes back as an equal value, wherever it
stands, if only its floating-point numbers read back (`reads_pretty`).
-/

namespace Daybook.Json

open Reader

/-! ## Values that are read -/

/-- Whether a value has no more containers inside each other than allowed, integers of 64 bits only,
and objects whose members are ordered by name. -/
inductive Value.Fits : Nat → Value → Prop
  | null {n : Nat} : Fits n .null
  | bool {n : Nat} {value : Bool} : Fits n (.bool value)
  | number {n : Nat} {value : Number} (h : value.InRange) : Fits n (.number value)
  | string {n : Nat} {value : String} : Fits n (.string value)
  | array {n : Nat} {items : List Value} (h : ∀ v ∈ items, Fits n v) : Fits (n + 1) (.array items)
  | object {n : Nat} {members : List (String × Value)}
      (sorted : members.Pairwise (fun e e' => e.1 < e'.1)) (h : ∀ e ∈ members, Fits n e.2) :
      Fits (n + 1) (.object members)

theorem gives_readValueFrom {allowed : Nat} (x : Char)
    (h : ∀ n, allowed = n + 1 → Gives (readValue n) (Value.Fits n)) :
    Gives (readValueFrom allowed x) (Value.Fits allowed) := by
  unfold readValueFrom
  split
  · exact .after fun _ => .after fun _ => .done .null
  · exact .after fun _ => .after fun _ => .done .bool
  · exact .after fun _ => .after fun _ => .done .bool
  · exact .after fun _ => (gives_readNumber true).bind fun m hm => .done (.number hm)
  · exact .after fun _ => .after fun _ => .done .string
  · cases allowed with
    | zero => exact .failNext
    | succ n =>
        refine .after fun _ => (gives_items (h n rfl)).bind fun values hvalues => ?_
        exact .after fun _ => .done (.array hvalues)
  · cases allowed with
    | zero => exact .failNext
    | succ n =>
        refine .after fun _ => (gives_members_insert (h n rfl)).bind fun m hm => ?_
        exact .after fun _ => .done (.object m.sorted hm)
  · split
    · exact (gives_readNumber false).bind fun m hm => .done (.number hm)
    · exact .failNext

/-- Every value that is read fits the allowance with which it is read. -/
theorem gives_readValue (allowed : Nat) : Gives (readValue allowed) (Value.Fits allowed) := by
  have hstep : ∀ allowed, (∀ n, allowed = n + 1 → Gives (readValue n) (Value.Fits n)) →
      Gives (readValue allowed) (Value.Fits allowed) := by
    intro allowed h
    rw [readValue_eq]
    refine .after fun next => ?_
    cases next with
    | none => exact .failHere
    | some x => exact gives_readValueFrom x h
  induction allowed with
  | zero => exact hstep 0 fun _ hn => (nomatch hn)
  | succ n ih =>
      refine hstep (n + 1) fun m hm => ?_
      obtain rfl := Nat.succ.inj hm
      exact ih

/-! ## Numbers of a value -/

namespace Value

mutual

/-- The numbers of a value. -/
def numbers : Value → List Number
  | .number value => [value]
  | .array items => itemNumbers items
  | .object members => memberNumbers members
  | _ => []

/-- The numbers of a list of values. -/
def itemNumbers : List Value → List Number
  | [] => []
  | item :: items => item.numbers ++ itemNumbers items

/-- The numbers of the members of an object. -/
def memberNumbers : List (String × Value) → List Number
  | [] => []
  | (_, value) :: members => value.numbers ++ memberNumbers members

end

theorem mem_itemNumbers {n : Number} : ∀ {items : List Value},
    n ∈ itemNumbers items ↔ ∃ item ∈ items, n ∈ item.numbers
  | [] => by simp [itemNumbers]
  | item :: items => by
      rw [itemNumbers, List.mem_append, mem_itemNumbers]
      simp

theorem mem_memberNumbers {n : Number} : ∀ {members : List (String × Value)},
    n ∈ memberNumbers members ↔ ∃ e ∈ members, n ∈ e.2.numbers
  | [] => by simp [memberNumbers]
  | (name, value) :: members => by
      rw [memberNumbers, List.mem_append, mem_memberNumbers]
      simp

/-- The integers in what fits have 64 bits. -/
theorem Fits.inRange {allowed : Nat} {v : Value} (h : v.Fits allowed) :
    ∀ n ∈ v.numbers, n.InRange := by
  induction h with
  | null => exact fun n hn => by simp [numbers] at hn
  | bool => exact fun n hn => by simp [numbers] at hn
  | string => exact fun n hn => by simp [numbers] at hn
  | @number allowed m hm =>
      intro n hn
      rw [numbers] at hn
      obtain rfl := List.mem_singleton.mp hn
      exact hm
  | array _ ih =>
      intro n hn
      rw [numbers] at hn
      obtain ⟨v, hv, hn⟩ := mem_itemNumbers.mp hn
      exact ih v hv n hn
  | object _ _ ih =>
      intro n hn
      rw [numbers] at hn
      obtain ⟨e, he, hn⟩ := mem_memberNumbers.mp hn
      exact ih e he n hn

/-! ## Values that are written -/

theorem prettyItems_eq_map (depth : Nat) : ∀ items : List Value,
    prettyItems depth items = items.map (pretty depth)
  | [] => by rw [prettyItems]; rfl
  | item :: items => by rw [prettyItems, prettyItems_eq_map depth items]; rfl

theorem prettyMembers_eq_map (depth : Nat) : ∀ members : List (String × Value),
    prettyMembers depth members
      = members.map (fun e => quote e.1 ++ ": " ++ e.2.pretty depth)
  | [] => by rw [prettyMembers]; rfl
  | (name, value) :: members => by rw [prettyMembers, prettyMembers_eq_map depth members]; rfl

/-- What stands in front of the parts of a container at some depth. -/
def lineText (depth : Nat) : List Char :=
  '\n' :: List.replicate (2 * (depth + 1)) ' '

/-- What stands between the last of some parts of a container and its closing bracket. -/
def closeText (depth : Nat) (isEmpty : Bool) : List Char :=
  if isEmpty then [] else '\n' :: List.replicate (2 * depth) ' '

theorem toList_intercalate (line : List Char) : ∀ (part : String) (parts : List String),
    (String.intercalate (String.ofList (',' :: line)) (part :: parts)).toList
      = part.toList ++ spreadParts line false (parts.map String.toList)
  | part, [] => by simp [spreadParts]
  | part, part' :: parts => by
      have ih := toList_intercalate line part' parts
      rw [String.toList_intercalate] at ih ⊢
      rw [List.map_cons] at ih
      rw [List.map_cons, List.map_cons, List.intercalate_cons_cons, ih, spreadParts,
        String.toList_ofList]
      simp [lead]

theorem toList_spread (depth : Nat) (opening closing : String) (parts : List String) :
    (spread depth opening closing parts).toList
      = opening.toList ++ (spreadParts (lineText depth) true (parts.map String.toList)
        ++ closeText depth parts.isEmpty ++ closing.toList) := by
  cases parts with
  | nil => simp [spread, spreadParts, closeText]
  | cons part parts =>
      have hsep : "," ++ ("\n" ++ indentation (depth + 1))
          = String.ofList (',' :: lineText depth) := by
        rw [← String.toList_inj]
        simp [indentation, lineText]
      unfold spread
      rw [if_neg (by simp)]
      dsimp only
      rw [hsep]
      simp only [String.toList_append, toList_intercalate]
      simp [spreadParts, lead, indentation, lineText, closeText]

/-- The characters of a member of an object. -/
def memberChars (depth : Nat) (e : String × Value) : List Char :=
  memberText (e.1, behindName (e.2.pretty depth).toList)

theorem toList_pretty_array (depth : Nat) (items : List Value) :
    (pretty depth (.array items)).toList
      = '[' :: (spreadParts (lineText depth) true
          (items.map fun v => (v.pretty (depth + 1)).toList)
        ++ closeText depth items.isEmpty ++ [']']) := by
  rw [pretty, prettyItems_eq_map, toList_spread, List.map_map, List.isEmpty_map]
  rfl

theorem toList_pretty_object (depth : Nat) (members : List (String × Value)) :
    (pretty depth (.object members)).toList
      = '{' :: (spreadParts (lineText depth) true (members.map (memberChars (depth + 1)))
        ++ closeText depth members.isEmpty ++ ['}']) := by
  have hchars : ∀ e : String × Value,
      (quote e.1 ++ ": " ++ e.2.pretty (depth + 1)).toList = memberChars (depth + 1) e := by
    intro e
    rw [String.toList_append, String.toList_append, toList_quote, List.append_assoc]
    rfl
  rw [pretty, prettyMembers_eq_map, toList_spread, List.map_map, List.isEmpty_map]
  simp only [Function.comp_def, hchars]
  rfl

theorem blank_lineText (depth : Nat) : Blank (lineText depth) := by
  intro x hx
  rcases List.mem_cons.mp hx with rfl | hx
  · rfl
  · rw [List.eq_of_mem_replicate hx]
    rfl

theorem blank_closeText (depth : Nat) (isEmpty : Bool) : Blank (closeText depth isEmpty) := by
  intro x hx
  cases isEmpty with
  | true => exact nomatch hx
  | false =>
      rcases List.mem_cons.mp hx with rfl | hx
      · rfl
      · rw [List.eq_of_mem_replicate hx]
        rfl

theorem sameItems_of_forall₂ {as bs : List Value}
    (h : List.Forall₂ (fun a b => a.same b = true) as bs) : sameItems as bs = true := by
  induction h with
  | nil => rfl
  | cons hsame _ ih => rw [sameItems, hsame, ih]; rfl

theorem sameMembers_of_forall₂ {as bs : List (String × Value)}
    (h : List.Forall₂ (SameEntry fun a b => a.same b = true) as bs) :
    sameMembers as bs = true := by
  induction h with
  | nil => rfl
  | @cons a b as bs hsame _ ih =>
      rw [sameMembers, hsame.1, hsame.2, ih, beq_self_eq_true]
      rfl

theorem toList_pretty_null (depth : Nat) :
    (pretty depth .null).toList = 'n' :: "ull".toList := by
  rw [pretty]
  rfl

theorem toList_pretty_true (depth : Nat) :
    (pretty depth (.bool true)).toList = 't' :: "rue".toList := by
  rw [pretty]
  rfl

theorem toList_pretty_false (depth : Nat) :
    (pretty depth (.bool false)).toList = 'f' :: "alse".toList := by
  rw [pretty]
  rfl

theorem opens_number {n : Number} (h : n.readsBack = true) : Opens n.toJson.toList := by
  have hnumeral := numeral_toJson n
  cases htext : n.toJson.toList with
  | nil =>
      obtain ⟨m, behind, hdone, -⟩ := done_of_readsBack h
      rw [htext, readValue_eq] at hdone
      exact nomatch hdone
  | cons x xs =>
      rw [htext] at hnumeral
      have hx := hnumeral x List.mem_cons_self
      refine ⟨x, xs, rfl, hnumeral.not_space List.mem_cons_self, ?_, ?_⟩
      · rintro rfl
        exact absurd hx (by decide)
      · rintro rfl
        exact absurd hx (by decide)

/-- A value that is written begins with a solid character. -/
theorem opens_pretty {depth : Nat} {v : Value} (h : ∀ n ∈ v.numbers, n.readsBack = true) :
    Opens (v.pretty depth).toList := by
  cases v with
  | null => exact ⟨_, _, toList_pretty_null depth, by decide⟩
  | bool value =>
      cases value with
      | true => exact ⟨_, _, toList_pretty_true depth, by decide⟩
      | false => exact ⟨_, _, toList_pretty_false depth, by decide⟩
  | number n => exact opens_number (h n (List.mem_singleton.mpr rfl))
  | string s =>
      rw [pretty, toList_quote]
      exact ⟨_, _, rfl, by decide⟩
  | array items =>
      rw [toList_pretty_array]
      exact ⟨_, _, rfl, by decide⟩
  | object members =>
      rw [toList_pretty_object]
      exact ⟨_, _, rfl, by decide⟩

end Value

/-! ## Values that are read back -/

open Value

/-- A value is read from its first solid character on. -/
theorem reads_readValue {allowed : Nat} {gap text : List Char} {x : Char}
    {follow : List Char → Prop} {P : Value → Prop} (hgap : Blank gap)
    (hx : Cursor.isSpace x = false) (h : Reads (readValueFrom allowed x) (x :: text) follow P) :
    Reads (readValue allowed) (gap ++ x :: text) follow P := by
  rw [readValue_eq]
  exact .peekSolid hgap hx h

/-- A value that is written is read back, if all its numbers are. -/
theorem reads_pretty {allowed : Nat} {v : Value} (hfits : v.Fits allowed) :
    ∀ {depth : Nat} {gap : List Char}, (∀ n ∈ v.numbers, n.readsBack = true) → Blank gap →
      Reads (readValue allowed) (gap ++ (v.pretty depth).toList) Ends
        (fun v' => v'.same v = true) := by
  -- along with the allowance: what a container holds is read with one less
  induction hfits with
  | null =>
      intro depth gap _ hgap
      rw [toList_pretty_null]
      exact reads_readValue hgap (by decide)
        (.skipThen ((reads_readWord _).thenDone fun _ _ => rfl))
  | @bool n value =>
      intro depth gap _ hgap
      cases value with
      | true =>
          rw [toList_pretty_true]
          exact reads_readValue hgap (by decide)
            (.skipThen ((reads_readWord _).thenDone fun _ _ => rfl))
      | false =>
          rw [toList_pretty_false]
          exact reads_readValue hgap (by decide)
            (.skipThen ((reads_readWord _).thenDone fun _ _ => rfl))
  | @number allowed n h =>
      intro depth gap hnumbers hgap
      have hn : n.readsBack = true := hnumbers n (List.mem_singleton.mpr rfl)
      refine (reads_number hn hgap allowed).imp ?_ fun _ h => h
      rintro v' ⟨m, rfl, hm⟩
      exact hm
  | @string n s =>
      intro depth gap _ hgap
      rw [pretty, toList_quote]
      refine reads_readValue hgap (by decide) (.skipThen ((reads_readString s).thenDone ?_))
      rintro _ rfl
      exact beq_self_eq_true _
  | @array n items hitems ih =>
      intro depth gap hnumbers hgap
      have hparts : ∀ v ∈ items, Reads (readValue n) (v.pretty (depth + 1)).toList Ends
          (fun v' => v'.same v = true) ∧ Opens (v.pretty (depth + 1)).toList := by
        intro v hv
        have hv' : ∀ m ∈ v.numbers, m.readsBack = true :=
          fun m hm => hnumbers m (mem_itemNumbers.mpr ⟨v, hv, hm⟩)
        exact ⟨ih v hv hv' blank_nil, opens_pretty hv'⟩
      have hbody := reads_items (blank_lineText depth) (blank_closeText depth items.isEmpty)
        (fun v => (v.pretty (depth + 1)).toList) (fun v' v : Value => v'.same v = true) items hparts
      have hclose : Reads closeList [']'] Ends (fun _ => True) :=
        reads_closeList blank_nil
      rw [toList_pretty_array]
      refine reads_readValue hgap (by decide)
        (.skipThen (hbody.bind (fun vs hvs => ?_) fun _ _ => rfl))
      exact hclose.thenDone fun _ _ => sameItems_of_forall₂ hvs
  | @object n members hsorted hmembers ih =>
      intro depth gap hnumbers hgap
      have hparts : ∀ e ∈ members, Reads (readValue n) (' ' :: (e.2.pretty (depth + 1)).toList) Ends
          (fun v' => v'.same e.2 = true) := by
        intro e he
        have he' : ∀ m ∈ e.2.numbers, m.readsBack = true :=
          fun m hm => hnumbers m (mem_memberNumbers.mpr ⟨e, he, hm⟩)
        exact ih e he he' blank_space
      have hmembers := readsMembers_insert (readValue n) (fun v => (v.pretty (depth + 1)).toList)
        (fun v' v => v'.same v = true) members [] hsorted hparts
      have hbody := reads_members (blank_lineText depth) (blank_closeText depth members.isEmpty)
        hmembers (s := NameMap.empty) .nil
      rw [List.map_map] at hbody
      have hclose : Reads closeObject ['}'] Ends (fun _ => True) := reads_closeObject
      rw [toList_pretty_object]
      refine reads_readValue hgap (by decide)
        (.skipThen (hbody.bind (fun m hm => ?_) fun _ _ => rfl))
      exact hclose.thenDone fun _ _ => sameMembers_of_forall₂ hm

end Daybook.Json
