import Daybook.NameMap

/-!
# Computations that fail

All reasons that a computation has to fail are written down as a list, in the order in which they
are looked for; the computation fails for the first of them, and succeeds where there is none
(`FailsFor`). Lists of reasons are put together as computations are: those of two steps one behind
the other (`FailsFor.bind`), those of a pass over a list by `flatMap` (`FailsFor.mapM`,
`FailsFor.forM`). So the order in which faults are found can be read off a list.

A sequence of two steps fails if the first does, or the second one after it (`bind_error_iff`).
-/

namespace Daybook

variable {ε α β : Type}

/-- Whether a computation fails for the first of some reasons, or succeeds for want of any. -/
def FailsFor : Except ε α → List ε → Prop
  | .error e, reasons => reasons.head? = some e
  | .ok _, reasons => reasons = []

/-- The reason for which a computation failed, if it did. -/
def faultOf : Except ε α → List ε
  | .error e => [e]
  | .ok _ => []

/-- The reason to fail that a condition is. -/
def faultIf (p : Prop) [Decidable p] (e : ε) : List ε :=
  if p then [e] else []

@[simp] theorem faultIf_eq_nil_iff {p : Prop} [Decidable p] {e : ε} : faultIf p e = [] ↔ ¬p := by
  unfold faultIf
  split <;> simp [*]

theorem faultOf_eq_nil_iff {x : Except ε α} : faultOf x = [] ↔ ∃ a, x = .ok a := by
  cases x with
  | error e => simp [faultOf]
  | ok a => simp [faultOf]

theorem failsFor_faultOf (x : Except ε α) : FailsFor x (faultOf x) := by
  cases x <;> rfl

theorem failsFor_ite (p : Prop) [Decidable p] (e : ε) (a : α) :
    FailsFor (if p then .error e else .ok a) (faultIf p e) := by
  unfold faultIf
  split <;> rfl

theorem bind_error_iff {x : Except ε α} {f : α → Except ε β} {e : ε} :
    x >>= f = .error e ↔ x = .error e ∨ ∃ a, x = .ok a ∧ f a = .error e := by
  cases x with
  | error e' =>
      refine ⟨fun h => .inl (congrArg _ (Except.error.inj h)), ?_⟩
      rintro (h | ⟨_, h, -⟩)
      · exact congrArg _ (Except.error.inj h)
      · exact nomatch h
  | ok a =>
      refine ⟨fun h => .inr ⟨a, rfl, h⟩, ?_⟩
      rintro (h | ⟨a', ha, h⟩)
      · exact nomatch h
      · obtain rfl := Except.ok.inj ha
        exact h

theorem mapError_error_iff {ε' : Type} {x : Except ε α} {f : ε → ε'} {e' : ε'} :
    x.mapError f = .error e' ↔ ∃ e, x = .error e ∧ e' = f e := by
  cases x with
  | error e => exact ⟨fun h => ⟨e, rfl, (Except.error.inj h).symm⟩, fun ⟨_, rfl, h⟩ => h ▸ rfl⟩
  | ok a => exact ⟨nofun, nofun⟩

namespace FailsFor

variable {x : Except ε α} {reasons reasons' : List ε}

theorem error_iff (h : FailsFor x reasons) {e : ε} : x = .error e ↔ reasons.head? = some e := by
  cases x with
  | error e' =>
      have hfirst : reasons.head? = some e' := h
      rw [hfirst]
      exact ⟨fun he => congrArg some (Except.error.inj he),
        fun he => congrArg _ (Option.some.inj he)⟩
  | ok a =>
      have hnone : reasons = [] := h
      rw [hnone]
      exact ⟨(nomatch ·), (nomatch ·)⟩

theorem ok_iff (h : FailsFor x reasons) : (∃ a, x = .ok a) ↔ reasons = [] := by
  cases x with
  | error e =>
      have hfirst : reasons.head? = some e := h
      refine ⟨fun ⟨_, ha⟩ => (nomatch ha), fun hnone => ?_⟩
      rw [hnone] at hfirst
      exact nomatch hfirst
  | ok a => exact ⟨fun _ => h, fun _ => ⟨a, rfl⟩⟩

theorem map (h : FailsFor x reasons) (f : α → β) : FailsFor (x.map f) reasons := by
  cases x <;> exact h

/-- Of two steps the second one's reasons stand behind those of the first; they must not depend on
what the first one gives. -/
theorem bind (hx : FailsFor x reasons) {f : α → Except ε β}
    (hf : ∀ a, FailsFor (f a) reasons') : FailsFor (x >>= f) (reasons ++ reasons') := by
  cases x with
  | error e =>
      have hfirst : reasons.head? = some e := hx
      show (reasons ++ reasons').head? = some e
      rw [List.head?_append, hfirst, Option.some_or]
  | ok a =>
      have hnone : reasons = [] := hx
      rw [hnone, List.nil_append]
      exact hf a

/-- A pass over a list has the reasons of its items, in order. -/
theorem mapM {f : α → Except ε β} {reasonsOf : α → List ε} : ∀ {as : List α},
    (∀ a ∈ as, FailsFor (f a) (reasonsOf a)) → FailsFor (as.mapM f) (as.flatMap reasonsOf)
  | [], _ => rfl
  | a :: as, h => by
      have hrest := mapM (fun a' ha' => h a' (List.mem_cons_of_mem a ha'))
      have hdone : ∀ b, FailsFor (do let bs ← as.mapM f; pure (b :: bs)) (as.flatMap reasonsOf) :=
        fun b => by
          have hpure : ∀ bs : List β, FailsFor (pure (b :: bs) : Except ε (List β)) [] :=
            fun _ => rfl
          simpa using hrest.bind hpure
      rw [List.mapM_cons, List.flatMap_cons]
      exact (h a List.mem_cons_self).bind hdone

theorem forM {f : α → Except ε PUnit} {reasonsOf : α → List ε} : ∀ {as : List α},
    (∀ a ∈ as, FailsFor (f a) (reasonsOf a)) → FailsFor (as.forM f) (as.flatMap reasonsOf)
  | [], _ => rfl
  | a :: as, h => by
      have hrest := forM (fun a' ha' => h a' (List.mem_cons_of_mem a ha'))
      rw [List.flatMap_cons]
      exact (h a List.mem_cons_self).bind (fun _ => hrest)

/-- Values under names are gone through in the order of the names. -/
theorem traverse {f : String → α → Except ε β} {reasonsOf : α → List ε} {m : NameMap α}
    (h : ∀ name a, FailsFor (f name a) (reasonsOf a)) :
    FailsFor (m.traverse f) (m.entries.flatMap (fun entry => reasonsOf entry.2)) := by
  have hentries := mapM fun entry (_ : entry ∈ m.entries) =>
    (h entry.1 entry.2).map (fun b => (entry.1, b))
  exact hentries.map NameMap.ofList

end FailsFor

end Daybook
