/-!
# Maps from names

Values under names, in the order of the names: texts are compared character by character, which is
also the order of their UTF-8 bytes. A later value under the same name takes the earlier one's
place.
-/

namespace Daybook

/-- Puts a value under a name into a list of entries ordered by name. -/
def insertEntry (name : String) (value : α) : List (String × α) → List (String × α)
  | [] => [(name, value)]
  | (n, v) :: rest =>
    if name < n then (name, value) :: (n, v) :: rest
    else if n < name then (n, v) :: insertEntry name value rest
    else (n, value) :: rest

/-- The names after an insertion are the new one and those that were there. -/
theorem mem_insertEntry_imp {name : String} {value : α} {entries : List (String × α)}
    {e : String × α} (h : e ∈ insertEntry name value entries) :
    e.1 = name ∨ ∃ v, (e.1, v) ∈ entries := by
  induction entries with
  | nil => simp [insertEntry] at h; exact .inl (by rw [h])
  | cons head rest ih =>
    obtain ⟨n, v⟩ := head
    unfold insertEntry at h
    split at h
    · rcases List.mem_cons.1 h with h | h
      · exact .inl (by rw [h])
      · exact .inr ⟨e.2, h⟩
    · split at h
      · rcases List.mem_cons.1 h with h | h
        · exact .inr ⟨v, by rw [h]; exact List.mem_cons_self⟩
        · rcases ih h with h | ⟨w, h⟩
          · exact .inl h
          · exact .inr ⟨w, List.mem_cons_of_mem _ h⟩
      · rcases List.mem_cons.1 h with h | h
        · exact .inr ⟨v, by rw [h]; exact List.mem_cons_self⟩
        · exact .inr ⟨e.2, List.mem_cons_of_mem _ h⟩

/-- An insertion keeps the order of the names. -/
theorem sorted_insertEntry (name : String) (value : α) {entries : List (String × α)}
    (h : entries.Pairwise (fun a b => a.1 < b.1)) :
    (insertEntry name value entries).Pairwise (fun a b => a.1 < b.1) := by
  induction entries with
  | nil => simp [insertEntry]
  | cons head rest ih =>
    obtain ⟨n, v⟩ := head
    have hd := List.pairwise_cons.1 h
    unfold insertEntry
    split
    · rename_i lt
      refine List.pairwise_cons.2 ⟨fun e he => ?_, h⟩
      rcases List.mem_cons.1 he with he | he
      · rw [he]; exact lt
      · exact String.lt_trans lt (hd.1 e he)
    · split
      · rename_i lt
        refine List.pairwise_cons.2 ⟨fun e he => ?_, ih hd.2⟩
        rcases mem_insertEntry_imp he with he | ⟨w, he⟩
        · rw [he]; exact lt
        · exact hd.1 (e.1, w) he
      · exact List.pairwise_cons.2 ⟨fun e he => hd.1 e he, hd.2⟩

/-- A name behind all others goes to the end. -/
theorem insertEntry_of_lt {name : String} {value : α} : ∀ {entries : List (String × α)},
    (∀ e ∈ entries, e.1 < name) → insertEntry name value entries = entries ++ [(name, value)]
  | [], _ => rfl
  | (n, v) :: rest, h => by
      have hn : n < name := h (n, v) List.mem_cons_self
      rw [insertEntry, if_neg (String.lt_asymm hn), if_pos hn,
        insertEntry_of_lt fun e he => h e (List.mem_cons_of_mem _ he)]
      rfl

/-- The entries after an insertion are those that were there, and one with the new value. -/
theorem of_mem_insertEntry {name : String} {value : α} {e : String × α} :
    ∀ {entries : List (String × α)}, e ∈ insertEntry name value entries →
      e.2 = value ∨ e ∈ entries
  | [], he => .inl (by rw [List.mem_singleton.mp he])
  | (n, v) :: rest, he => by
      rw [insertEntry] at he
      split at he
      · rcases List.mem_cons.mp he with rfl | he
        · exact .inl rfl
        · exact .inr he
      · split at he
        · rcases List.mem_cons.mp he with rfl | he
          · exact .inr List.mem_cons_self
          · rcases of_mem_insertEntry he with he | he
            · exact .inl he
            · exact .inr (List.mem_cons_of_mem _ he)
        · rcases List.mem_cons.mp he with rfl | he
          · exact .inl rfl
          · exact .inr (List.mem_cons_of_mem _ he)

/-- What is found under a name after an insertion. -/
theorem find?_insertEntry (name : String) (value : α) (other : String) :
    ∀ entries : List (String × α), (insertEntry name value entries).find? (·.1 == other)
      = if other = name then some (name, value) else entries.find? (·.1 == other)
  | [] => by
      by_cases h : other = name
      · simp [insertEntry, h]
      · simp [insertEntry, h, Ne.symm h]
  | (n, v) :: rest => by
      rw [insertEntry]
      split
      · by_cases h : other = name
        · simp [h]
        · simp [h, Ne.symm h]
      · rename_i hle
        split
        · rename_i hlt
          have hrest := find?_insertEntry name value other rest
          by_cases hn : n = other
          · have hne : other ≠ name := fun h => String.lt_irrefl name (by rwa [hn, h] at hlt)
            simp [hn, hne]
          · simp [hn, hrest]
        · rename_i hge
          obtain rfl : n = name := String.le_antisymm hle hge
          by_cases h : other = n
          · simp [h]
          · simp [h, Ne.symm h]

/-- Values under names, ordered by name. -/
structure NameMap (α : Type) where
  entries : List (String × α)
  sorted : entries.Pairwise (fun a b => a.1 < b.1)

namespace NameMap

/-- The map without any name. -/
def empty : NameMap α :=
  ⟨[], .nil⟩

/-- The map with one more value, under a new name or in the place of the earlier value. -/
def insert (m : NameMap α) (name : String) (value : α) : NameMap α :=
  ⟨insertEntry name value m.entries, sorted_insertEntry name value m.sorted⟩

/-- The map of a list of pairs, of which later ones win. -/
def ofList (pairs : List (String × α)) : NameMap α :=
  pairs.foldl (fun m pair => m.insert pair.1 pair.2) empty

/-- The value under a name. -/
def get? (m : NameMap α) (name : String) : Option α :=
  (m.entries.find? (·.1 == name)).map (·.2)

theorem get?_insert (m : NameMap α) (name : String) (value : α)
    (other : String) :
    (m.insert name value).get? other = if other = name then some value else m.get? other := by
  rw [get?, insert, find?_insertEntry]
  split <;> rfl

/-- The names, in order. -/
def names (m : NameMap α) : List String :=
  m.entries.map (·.1)

/-- The number of names. -/
def size (m : NameMap α) : Nat :=
  m.entries.length

/-- Every value replaced by what a function of name and value gives, or the first failure in the
order of the names. -/
def traverse (f : String → α → Except ε β) (m : NameMap α) : Except ε (NameMap β) :=
  (m.entries.mapM (fun entry => (f entry.1 entry.2).map (fun b => (entry.1, b)))).map ofList

instance [BEq α] : BEq (NameMap α) :=
  ⟨fun a b => a.entries == b.entries⟩

instance : Inhabited (NameMap α) :=
  ⟨empty⟩

end NameMap

end Daybook
