import Mathlib.Data.List.Nodup
import Daybook.Proofs.Script.Registration
import Daybook.Script.Builtin

/-!
# Places of operators

Registering an operator puts it in the place of the one of its name, or behind all others. So the
names of a table only grow at the end (`names_prefix_registerAll`). As no name stands twice among
them, the place of a name is where it stands there (`resolve?_eq_some_iff`), and it keeps that place
whatever is registered later (`resolve?_of_prefix`).

A table may also be kept in two structures, operators by place and places by name
(`IndexedTable`). Such a table trusts its index: when a name is registered again, the place that the
index has for it is written to as it is. As long as the two structures stand for one table
(`IndexedTable.Represents`), there is an operator in that place.
-/

namespace Daybook.Script

namespace OperatorTable

variable {t t' : OperatorTable} {name : String} {place : Nat} {op : Operator}

/-! ## Places -/

theorem resolve?_eq_idxOf? (t : OperatorTable) (name : String) :
    t.resolve? name = t.names.idxOf? name := by
  rw [names, List.idxOf?, List.findIdx?_map]
  rfl

/-- The place of a name is where it stands among the names. -/
theorem resolve?_eq_some_iff : t.resolve? name = some place ↔ t.names[place]? = some name := by
  rw [resolve?_eq_idxOf?, List.idxOf?_eq_some_iff]
  constructor
  · rintro ⟨hlt, hname, -⟩
    rw [List.getElem?_eq_getElem hlt, hname]
  · intro h
    obtain ⟨hlt, hname⟩ := List.getElem?_eq_some_iff.mp h
    refine ⟨hlt, hname, fun earlier hearlier heq => ?_⟩
    have hsame : earlier = place :=
      (List.Nodup.getElem_inj_iff t.distinct).mp (heq.trans hname.symm)
    exact Nat.ne_of_lt hearlier hsame

theorem resolve?_eq_none_iff : t.resolve? name = none ↔ name ∉ t.names := by
  rw [resolve?_eq_idxOf?, List.idxOf?_eq_none_iff]

theorem isSome_resolve?_iff : (t.resolve? name).isSome = true ↔ name ∈ t.names := by
  rw [← Option.ne_none_iff_isSome, Ne, resolve?_eq_none_iff, not_not]

/-- Places stay the same as long as names are only put behind the others. -/
theorem resolve?_of_prefix (h : t.names <+: t'.names) (hplace : t.resolve? name = some place) :
    t'.resolve? name = some place := by
  obtain ⟨new, hnew⟩ := h
  rw [resolve?_eq_some_iff] at hplace ⊢
  obtain ⟨hlt, -⟩ := List.getElem?_eq_some_iff.mp hplace
  rw [← hnew, List.getElem?_append_left hlt, hplace]

/-! ## One registration -/

theorem names_insert (t : OperatorTable) (op : Operator) : (t.insert op).names
    = if op.name ∈ t.names then t.names else t.names ++ [op.name] :=
  names_putOperator op t.operators

theorem names_prefix_insert (t : OperatorTable) (op : Operator) :
    t.names <+: (t.insert op).names := by
  rw [names_insert]
  split
  · exact List.prefix_rfl
  · exact List.prefix_append ..

/-- Registering a name again changes what stands in its place. -/
theorem operators_insert_of_some (h : t.resolve? op.name = some place) :
    (t.insert op).operators = t.operators.set place op := by
  show putOperator op t.operators = _
  have hfind : t.operators.findIdx? (·.name == op.name) = some place := h
  clear h
  generalize t.operators = os at hfind ⊢
  induction os generalizing place with
  | nil => exact nomatch hfind
  | cons o os ih =>
      rw [List.findIdx?_cons] at hfind
      rw [putOperator]
      by_cases same : o.name = op.name
      · rw [if_pos (beq_iff_eq.mpr same)] at hfind
        rw [if_pos same, ← Option.some.inj hfind, List.set_cons_zero]
      · rw [if_neg (mt beq_iff_eq.mp same)] at hfind
        obtain ⟨before, hbefore, rfl⟩ := Option.map_eq_some_iff.mp hfind
        rw [if_neg same, List.set_cons_succ, ih hbefore]

/-- A new name goes behind all others. -/
theorem operators_insert_of_none (h : t.resolve? op.name = none) :
    (t.insert op).operators = t.operators ++ [op] :=
  putOperator_of_not_mem (resolve?_eq_none_iff.mp h)

theorem register_fst_of_some (h : t.resolve? op.name = some place) :
    (t.register op).1 = place :=
  (List.findIdx?_eq_some_iff_findIdx_eq.mp h).2

theorem register_fst_of_none (h : t.resolve? op.name = none) :
    (t.register op).1 = t.operators.length := by
  refine List.findIdx_eq_length.mpr fun o ho => ?_
  exact List.findIdx?_eq_none_iff.mp h o ho

/-- The place that registering tells is the one that the name has from then on. -/
theorem resolve?_insert_self (t : OperatorTable) (op : Operator) :
    (t.insert op).resolve? op.name = some (t.register op).1 := by
  cases h : t.resolve? op.name with
  | some place =>
      rw [register_fst_of_some h]
      exact resolve?_of_prefix (names_prefix_insert t op) h
  | none =>
      rw [register_fst_of_none h, resolve?_eq_some_iff, names_insert,
        if_neg (resolve?_eq_none_iff.mp h)]
      have hlength : t.names.length = t.operators.length := List.length_map ..
      rw [← hlength, List.getElem?_concat_length]

/-- Registering an operator gives no other name a place, and takes none from it. -/
theorem resolve?_insert_of_ne (h : name ≠ op.name) :
    (t.insert op).resolve? name = t.resolve? name := by
  cases hplace : t.resolve? name with
  | some place => exact resolve?_of_prefix (names_prefix_insert t op) hplace
  | none =>
      rw [resolve?_eq_none_iff] at hplace ⊢
      rw [names_insert]
      split
      · exact hplace
      · simp [hplace, h]

/-- Nor does it change what stands in the place of another name. -/
theorem get?_insert_of_ne (h : name ≠ op.name) (hplace : t.resolve? name = some place) :
    (t.insert op).get? place = t.get? place := by
  obtain ⟨other, hother, hname⟩ := get?_of_resolve? hplace
  have hlt : place < t.operators.length := (List.getElem?_eq_some_iff.mp hother).1
  cases hop : t.resolve? op.name with
  | none => rw [get?, operators_insert_of_none hop, List.getElem?_append_left hlt, get?]
  | some taken =>
      have hne : taken ≠ place := by
        rintro rfl
        rw [resolve?_eq_some_iff] at hplace hop
        exact h (Option.some.inj (hplace.symm.trans hop))
      rw [get?, operators_insert_of_some hop, List.getElem?_set_ne hne, get?]

/-! ## Registrations one after the other -/

/-- Registers operators one after the other, and tells their places. -/
def registerAll : List Operator → StateM OperatorTable (List Nat)
  | [] => pure []
  | op :: ops => do
    let place ← fun t => t.register op
    let places ← registerAll ops
    return place :: places

theorem registerAll_cons (op : Operator) (ops : List Operator) (t : OperatorTable) :
    registerAll (op :: ops) t = ((t.register op).1 :: (registerAll ops (t.insert op)).1,
      (registerAll ops (t.insert op)).2) :=
  rfl

theorem names_prefix_registerAll : ∀ (ops : List Operator) (t : OperatorTable),
    t.names <+: (registerAll ops t).2.names
  | [], _ => List.prefix_rfl
  | op :: ops, t =>
      (names_prefix_insert t op).trans (names_prefix_registerAll ops (t.insert op))

/-- Each place told by a run is the one that its name has at the end of the run. -/
theorem map_some_registerAll : ∀ (ops : List Operator) (t : OperatorTable),
    (registerAll ops t).1.map some = ops.map ((registerAll ops t).2.resolve? ·.name)
  | [], _ => rfl
  | op :: ops, t => by
      have hplace := resolve?_of_prefix (names_prefix_registerAll ops (t.insert op))
        (resolve?_insert_self t op)
      rw [registerAll_cons, List.map_cons, List.map_cons, hplace,
        map_some_registerAll ops (t.insert op)]

/-- Every table is what registering its operators comes to. -/
theorem registered_operators (t : OperatorTable) : registered t.operators = t := by
  have hoperators := operators_registered t.distinct
  generalize registered t.operators = t' at hoperators
  cases t
  cases t'
  cases hoperators
  rfl

theorem registerAll_snd (ops : List Operator) (t : OperatorTable) :
    (registerAll ops t).2 = registered (t.operators ++ ops) := by
  have hfold : ∀ (ops : List Operator) (t : OperatorTable),
      (registerAll ops t).2 = ops.foldl (fun t op => (t.register op).2) t := by
    intro ops
    induction ops with
    | nil => exact fun _ => rfl
    | cons op ops ih => exact fun t => ih (t.insert op)
  rw [hfold, registered, List.foldl_append]
  exact congrArg (ops.foldl fun t op => (t.register op).2) (registered_operators t).symm

theorem eraseDups_concat (names : List String) (name : String) : (names ++ [name]).eraseDups
    = if name ∈ names then names.eraseDups else names.eraseDups ++ [name] := by
  rw [List.eraseDups_append]
  by_cases h : name ∈ names <;> simp [List.removeAll, List.eraseDups_cons, h]

theorem names_registered (registrations : List Operator) :
    (registered registrations).names = (registrations.map (·.name)).eraseDups := by
  induction registrations using List.reverseRecOn with
  | nil => rfl
  | append_singleton registrations op ih =>
      rw [registered_concat, names_insert, ih, List.map_append, List.map_singleton,
        eraseDups_concat]
      split
      · rename_i hmem
        rw [if_pos (List.mem_eraseDups.mp hmem)]
      · rename_i hnew
        rw [if_neg (mt List.mem_eraseDups.mpr hnew)]

/-- What a table holds after some registrations: each name once, in the order of their first
registrations, and in the place where the name stands the operator last registered under it. -/
structure Holds (t : OperatorTable) (registrations : List Operator) : Prop where
  names : t.names = (registrations.map (·.name)).eraseDups
  distinct : t.names.Nodup
  resolves : ∀ name, (t.resolve? name).isSome = true ↔ name ∈ registrations.map (·.name)
  position : ∀ name place, t.resolve? name = some place ↔ t.names[place]? = some name
  latest : ∀ name place, t.resolve? name = some place →
    ∃ op, t.get? place = some op ∧ op.name = name ∧ latest? registrations name = some op

theorem holds_registered (registrations : List Operator) :
    (registered registrations).Holds registrations where
  names := names_registered registrations
  distinct := (registered registrations).distinct
  resolves := fun name => by
    rw [isSome_resolve?_iff, names_registered, List.mem_eraseDups]
  position := fun _ _ => resolve?_eq_some_iff
  latest := fun name place hplace => by
    obtain ⟨op, hop, hname⟩ := get?_of_resolve? hplace
    have hlatest := get?_resolve?_registered registrations name
    rw [hplace, Option.bind_some, hop] at hlatest
    exact ⟨op, hop, hname, hlatest.symm⟩

end OperatorTable

/-! ## Two structures -/

/-- Operators by place, and an index of the places of their names. -/
structure IndexedTable where
  operators : Array Operator
  places : NameMap Nat

namespace IndexedTable

/-- Two structures without any operator. -/
def empty : IndexedTable :=
  ⟨#[], .empty⟩

/-- Registers an operator in the place that the index has for its name, or behind all others under
a new entry of the index. An index that leads outside of the table is a fault. -/
def register? (op : Operator) : StateT IndexedTable Option Nat := fun t =>
  match t.places.get? op.name with
  | some place =>
    if h : place < t.operators.size then
      some (place, { t with operators := t.operators.set place op })
    else none
  | none =>
    some (t.operators.size,
      ⟨t.operators.push op, t.places.insert op.name t.operators.size⟩)

/-- Registers operators one after the other, and tells their places. -/
def registerAll? : List Operator → StateT IndexedTable Option (List Nat)
  | [] => pure []
  | op :: ops => do
    let place ← register? op
    let places ← registerAll? ops
    return place :: places

/-- Whether two structures stand for a table. -/
structure Represents (i : IndexedTable) (t : OperatorTable) : Prop where
  operators : i.operators.toList = t.operators
  places : ∀ name, i.places.get? name = t.resolve? name

theorem represents_empty : empty.Represents .empty :=
  ⟨rfl, fun _ => rfl⟩

variable {i : IndexedTable} {t : OperatorTable}

/-- Registering an operator in both structures succeeds, tells the place that registering it in the
table tells, and leaves structures that stand for the table then. -/
theorem represents_register (h : i.Represents t) (op : Operator) :
    ∃ i', register? op i = some ((t.register op).1, i') ∧ i'.Represents (t.insert op) := by
  have hsize : i.operators.size = t.operators.length := by
    rw [← Array.length_toList, h.operators]
  unfold register?
  rw [h.places]
  cases hplace : t.resolve? op.name with
  | some place =>
      obtain ⟨old, hold, -⟩ := OperatorTable.get?_of_resolve? hplace
      have hlt : place < i.operators.size := by
        rw [hsize]
        exact (List.getElem?_eq_some_iff.mp hold).1
      dsimp only
      rw [dif_pos hlt, OperatorTable.register_fst_of_some hplace]
      refine ⟨_, rfl, ?_, fun name => ?_⟩
      · rw [Array.toList_set, h.operators, OperatorTable.operators_insert_of_some hplace]
      · rw [h.places]
        by_cases hname : name = op.name
        · rw [hname, OperatorTable.resolve?_insert_self, OperatorTable.register_fst_of_some hplace,
            hplace]
        · rw [OperatorTable.resolve?_insert_of_ne hname]
  | none =>
      dsimp only
      rw [hsize, OperatorTable.register_fst_of_none hplace]
      refine ⟨_, rfl, ?_, fun name => ?_⟩
      · rw [Array.toList_push, h.operators, OperatorTable.operators_insert_of_none hplace]
      · rw [NameMap.get?_insert, h.places]
        by_cases hname : name = op.name
        · rw [if_pos hname, hname, OperatorTable.resolve?_insert_self,
            OperatorTable.register_fst_of_none hplace]
        · rw [if_neg hname, OperatorTable.resolve?_insert_of_ne hname]

theorem represents_registerAll : ∀ (ops : List Operator) {i : IndexedTable} {t : OperatorTable},
    i.Represents t → ∃ i', registerAll? ops i = some ((OperatorTable.registerAll ops t).1, i')
      ∧ i'.Represents (OperatorTable.registerAll ops t).2
  | [], i, _, h => ⟨i, rfl, h⟩
  | op :: ops, i, t, h => by
      obtain ⟨i₁, hfirst, h₁⟩ := represents_register h op
      obtain ⟨i₂, hrest, h₂⟩ := represents_registerAll ops h₁
      refine ⟨i₂, ?_, h₂⟩
      show (register? op i).bind (fun p => (registerAll? ops p.2).bind fun q =>
        some (p.1 :: q.1, q.2)) = _
      rw [hfirst, Option.bind_some, hrest]
      rfl

end IndexedTable

/-! ## All of it -/

namespace OperatorTable

/-- **Operators keep their places.** Whatever is registered, one operator after the other, with a
table that holds some operators already: the table then has each name once, in the order of first
registration, and in its place the operator last registered under it. The place told by each
registration is the one that the name has at the end, and it stays so, with an operator of that
name, whatever is registered later. A registration changes neither place nor operator of another
name. Operators by place with an index of names come to the same, and never miss. -/
theorem registerAll_keeps_places (start : OperatorTable) (registrations later : List Operator) :
    let run := registerAll registrations start
    let t := run.2
    let after := (registerAll later t).2
    t.Holds (start.operators ++ registrations)
      ∧ run.1.map some = registrations.map (t.resolve? ·.name)
      ∧ (∀ name place, t.resolve? name = some place →
        after.resolve? name = some place ∧ ∃ op, after.get? place = some op ∧ op.name = name)
      ∧ (∀ op name, name ≠ op.name → (t.register op).2.resolve? name = t.resolve? name
        ∧ ∀ place, t.resolve? name = some place →
          (t.register op).2.get? place = t.get? place)
      ∧ ∃ places i i', IndexedTable.registerAll? start.operators .empty = some (places, i)
        ∧ i.Represents start
        ∧ IndexedTable.registerAll? registrations i = some (run.1, i')
        ∧ i'.Represents t := by
  intro run t after
  have ht : t = registered (start.operators ++ registrations) := registerAll_snd registrations start
  refine ⟨?_, map_some_registerAll registrations start, fun name place hplace => ?_,
    fun op name hname => ⟨resolve?_insert_of_ne hname, fun place => get?_insert_of_ne hname⟩, ?_⟩
  · rw [ht]
    exact holds_registered _
  · have hlater := resolve?_of_prefix (names_prefix_registerAll later t) hplace
    exact ⟨hlater, get?_of_resolve? hlater⟩
  · obtain ⟨i, hrun, hi⟩ := IndexedTable.represents_registerAll start.operators
      IndexedTable.represents_empty
    have hstart : (registerAll start.operators empty).2 = start := by
      rw [registerAll_snd]
      exact registered_operators start
    rw [hstart] at hi
    obtain ⟨i', hrun', hi'⟩ := IndexedTable.represents_registerAll registrations hi
    exact ⟨_, i, i', hrun, hi, hrun', hi'⟩

/-- A name of the operators of every view keeps its place, and a new one stands behind them. -/
example : (registerAll [⟨"var", 3, wrapHandler .b⟩, ⟨"new", 0, wrapHandler .i⟩,
    ⟨"var", 1, varHandler⟩] .builtin).1 = [2, 10, 2] := by
  decide +kernel

end OperatorTable

end Daybook.Script
