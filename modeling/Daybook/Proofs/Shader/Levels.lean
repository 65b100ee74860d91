import Daybook.Proofs.Shader.Cache

/-!
# Caches in two levels

Results may be kept by the name of their shader first, and for each name by the text (`Levels`). As
long as every lookup gives what the cache gives that keeps them by both at once, and as many are
kept (`Levels.Represents`), nothing that is asked can tell the two apart (`represents_ask`). In
particular two shaders never get each other's results.
-/

namespace Daybook.Shader

open Daybook.Pattern

/-! ## Entries by key -/

section

variable {β : Type}

/-- Entries with the one of a key changed, or with a new one at the end if it has none. -/
def alter (key : String) (change : Option β → β) : List (String × β) → List (String × β)
  | [] => [(key, change none)]
  | (k, b) :: rest =>
    if k = key then (k, change (some b)) :: rest else (k, b) :: alter key change rest

variable (key : String) (change : Option β → β) (entries : List (String × β))

theorem lookup_cons_eq_ite (k : String) (b : β) : ((k, b) :: entries).lookup key
    = if key = k then some b else entries.lookup key := by
  rw [List.lookup_cons]
  by_cases hkey : key = k
  · rw [if_pos hkey, beq_iff_eq.mpr hkey]
  · rw [if_neg hkey, beq_eq_false_iff_ne.mpr hkey]

theorem lookup_alter (key' : String) : (alter key change entries).lookup key'
    = if key' = key then some (change (entries.lookup key)) else entries.lookup key' := by
  induction entries with
  | nil => exact lookup_cons_eq_ite key' [] key _
  | cons entry rest ih =>
      obtain ⟨k, b⟩ := entry
      rw [alter, lookup_cons_eq_ite, lookup_cons_eq_ite]
      by_cases hk : k = key
      · subst hk
        rw [if_pos rfl, if_pos rfl, lookup_cons_eq_ite]
        split <;> rfl
      · rw [if_neg hk, if_neg (Ne.symm hk), lookup_cons_eq_ite, ih]
        by_cases hk' : key' = k
        · rw [if_pos hk', if_pos hk', if_neg (hk' ▸ hk)]
        · rw [if_neg hk', if_neg hk']

/-- Changing an entry changes how much all entries hold by how much that one holds. -/
theorem length_flatMap_alter {γ : Type} (pieces : β → List γ) :
    ((alter key change entries).flatMap (pieces ·.2)).length
        + (((entries.lookup key).map pieces).getD []).length
      = (entries.flatMap (pieces ·.2)).length
        + (pieces (change (entries.lookup key))).length := by
  induction entries with
  | nil => simp [alter]
  | cons entry rest ih =>
      obtain ⟨k, b⟩ := entry
      rw [alter, lookup_cons_eq_ite, List.flatMap_cons, List.length_append]
      by_cases hk : k = key
      · rw [if_pos hk, if_pos hk.symm, List.flatMap_cons, List.length_append, Option.map_some,
          Option.getD_some]
        dsimp only
        omega
      · rw [if_neg hk, if_neg (Ne.symm hk), List.flatMap_cons, List.length_append]
        omega

theorem length_alter (h : entries.lookup key = none) :
    (alter key change entries).length = entries.length + 1 := by
  have hlength := length_flatMap_alter key change entries (fun b => [b])
  rw [h] at hlength
  simpa using hlength

end

/-! ## Two levels -/

/-- Records kept by the name of a shader and then by the text, with counts of how often they were
found and how often not. -/
structure Levels where
  byName : List (String × List (String × List Record))
  hits : Nat
  misses : Nat

namespace Levels

/-- Two levels before the first request. -/
def empty : Levels :=
  ⟨[], 0, 0⟩

/-- What is kept under a request. -/
def find? (t : Levels) (r : Request) : Option (List Record) :=
  (t.byName.lookup r.name).bind (·.lookup r.input)

/-- The number of texts under which something is kept, over all names. -/
def size (t : Levels) : Nat :=
  (t.byName.flatMap (·.2)).length

/-- Records kept under a request, those that were kept under it before forgotten. -/
def keep (t : Levels) (r : Request) (records : List Record) : Levels :=
  { t with
    byName := alter r.name (fun inner => alter r.input (fun _ => records) (inner.getD [])) t.byName
    misses := t.misses + 1 }

/-- The records of a text under a known shader, from the two levels if they are kept there. -/
def ask (l : Literal) (r : Request) : StateM Levels (List Record) :=
  fun t =>
    match t.find? r with
    | some records => (records, { t with hits := t.hits + 1 })
    | none => (run l r.input, t.keep r (run l r.input))

/-- Whether two levels keep what a cache keeps, with the same counts. -/
structure Represents (t : Levels) (c : Cache) : Prop where
  find : ∀ r, t.find? r = c.find? r
  size : t.size = c.size
  hits : t.hits = c.hits
  misses : t.misses = c.misses

theorem represents_empty : empty.Represents .empty :=
  ⟨fun _ => rfl, rfl, rfl, rfl⟩

variable {t : Levels} {c : Cache} {r : Request}

theorem find?_keep (t : Levels) (r : Request) (records : List Record) (r' : Request) :
    (t.keep r records).find? r' = if r' = r then some records else t.find? r' := by
  rw [find?, keep, lookup_alter]
  by_cases hname : r'.name = r.name
  · rw [if_pos hname, Option.bind_some, lookup_alter]
    by_cases hinput : r'.input = r.input
    · have hr : r' = r := by
        cases r'; cases r; simp_all
      rw [if_pos hinput, if_pos hr]
    · have hr : r' ≠ r := fun h => hinput (h ▸ rfl)
      rw [if_neg hinput, if_neg hr, find?, hname]
      cases t.byName.lookup r.name <;> rfl
  · have hr : r' ≠ r := fun h => hname (h ▸ rfl)
    rw [if_neg hname, if_neg hr, find?]

theorem size_keep (h : t.find? r = none) (records : List Record) :
    (t.keep r records).size = t.size + 1 := by
  have hinner : ((t.byName.lookup r.name).getD []).lookup r.input = none := by
    rw [find?] at h
    cases hlookup : t.byName.lookup r.name with
    | none => rfl
    | some inner =>
        rw [hlookup] at h
        exact h
  have htotal := length_flatMap_alter r.name
    (fun inner => alter r.input (fun _ => records) (inner.getD [])) t.byName id
  have hadded : (id (alter r.input (fun _ => records)
      ((t.byName.lookup r.name).getD []))).length = ((t.byName.lookup r.name).getD []).length + 1 :=
    length_alter _ _ _ hinner
  rw [hadded, Option.map_id_fun, id] at htotal
  have hsize : (t.keep r records).size + ((t.byName.lookup r.name).getD []).length
      = t.size + (((t.byName.lookup r.name).getD []).length + 1) := htotal
  omega

end Levels

/-- A cache behind one more entry. -/
theorem find?_kept (c : Cache) (r : Request) (records : List Record) (misses : Nat)
    (r' : Request) : ({ c with kept := (r, records) :: c.kept, misses }).find? r'
      = if r' = r then some records else c.find? r' := by
  rw [Cache.find?, List.find?_cons]
  by_cases hr : r' = r
  · simp [hr]
  · have hne : (r == r') = false := by simpa using Ne.symm hr
    rw [hne, if_neg hr]
    rfl

/-- Two levels answer as the cache does that they represent, and represent it again. -/
theorem represents_ask {t : Levels} {c : Cache} (h : t.Represents c) (l : Literal) (r : Request) :
    (Levels.ask l r t).1 = (ask l r c).1 ∧ (Levels.ask l r t).2.Represents (ask l r c).2 := by
  rw [Levels.ask, ask, h.find r]
  cases hfind : c.find? r with
  | some records => exact ⟨rfl, h.find, h.size, congrArg (· + 1) h.hits, h.misses⟩
  | none =>
      have hnone : t.find? r = none := (h.find r).trans hfind
      refine ⟨rfl, fun r' => ?_, ?_, h.hits, congrArg (· + 1) h.misses⟩
      · dsimp only
        rw [Levels.find?_keep, find?_kept, h.find r']
      · dsimp only
        rw [Levels.size_keep hnone, h.size]
        rfl

end Daybook.Shader
