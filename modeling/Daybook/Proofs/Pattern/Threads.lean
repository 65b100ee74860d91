import Daybook.Proofs.Pattern.Code

/-!
# What threads save

The invariant of all threads of a run: a thread is at an instruction behind the first one, has the
place where the run began in its first slot, and has saved no place before that or behind the one
that it has come to (`Thread.Since`). The first step of a run makes it true (`within_opened`),
and each step keeps it, with a character or without. So a match begins where its run began and ends
inside the text (`Program.within_matchAt?`).
-/

namespace Daybook.Pattern

/-- Whether slots hold the place where a run began, and besides it only places from there up to
`place`. -/
structure Slots.Within (start place : Nat) (slots : Slots) : Prop where
  first : slots[0]? = some (some start)
  places : ∀ slot saved : Nat, slots[slot]? = some (some saved) → start ≤ saved ∧ saved ≤ place

/-- Whether a thread of a run that began at `start` is inside the code and has come no further than
to `place`. -/
structure Thread.Since (body : Code) (start place : Nat) (t : Thread) : Prop where
  state : t.state < body.size
  slots : t.slots.Within start place

namespace Slots.Within

variable {start place : Nat} {slots : Slots}

theorem mono {place' : Nat} (h : slots.Within start place) (hplace : place ≤ place') :
    slots.Within start place' :=
  ⟨h.first, fun slot saved hsaved =>
    ⟨(h.places slot saved hsaved).1, Nat.le_trans (h.places slot saved hsaved).2 hplace⟩⟩

theorem start_le (h : slots.Within start place) : start ≤ place :=
  (h.places 0 start h.first).2

/-- Saving the present place anywhere but in the first slot. -/
theorem save (h : slots.Within start place) {slot : Nat} (hslot : slot ≠ 0) :
    Slots.Within start place (slots.setIfInBounds slot (some place)) := by
  refine ⟨?_, fun other saved hsaved => ?_⟩
  · rw [Array.getElem?_setIfInBounds_ne hslot]
    exact h.first
  · rw [Array.getElem?_setIfInBounds] at hsaved
    split at hsaved
    · split at hsaved
      · obtain rfl := Option.some.inj (Option.some.inj hsaved)
        exact ⟨h.start_le, Nat.le_refl _⟩
      · exact nomatch hsaved
    · exact h.places other saved hsaved

end Slots.Within

section

variable {p : Program} {body : Code} {first : Nat} (hclosed : Closed body)
  (hcode : p.code = body.push (.save 0 first)) {start place : Nat}

include hclosed hcode

theorem fits_of_state {t : Thread} (ht : t.Since body start place) {i : Instruction}
    (hi : p.code[t.state]? = some i) : i.Fits body.size := by
  rw [hcode, Array.getElem?_push_lt ht.state] at hi
  obtain rfl := Option.some.inj hi
  exact hclosed _ (Array.getElem_mem ht.state)

/-! ## Steps without a character -/

theorem since_follow (before after : Option Char) (round : Nat) :
    ∀ (fuel : Nat) {stack : List Thread} {front : Front},
      (∀ t ∈ stack, t.Since body start place) → (∀ t ∈ front.threads, t.Since body start place) →
        ∀ t ∈ (follow p before after place round fuel stack front).threads,
          t.Since body start place
  | 0, _, _, _, hfront => hfront
  | fuel + 1, [], _, _, hfront => hfront
  | fuel + 1, t :: stack, front, hstack, hfront => by
      have ht : t.Since body start place := hstack t List.mem_cons_self
      have hrest : ∀ u ∈ stack, u.Since body start place :=
        fun u hu => hstack u (List.mem_cons_of_mem t hu)
      unfold follow
      split
      · exact since_follow before after round fuel hrest hfront
      dsimp only
      cases hi : p.code[t.state]? with
      | none => exact since_follow before after round fuel hrest hfront
      | some i =>
          have hfits := fits_of_state hclosed hcode ht hi
          have hstep : ∀ target ∈ i.targets, (Thread.mk target t.slots).Since body start place :=
            fun target htarget => ⟨hfits.targets target htarget, ht.slots⟩
          have hthread : ∀ u ∈ t :: front.threads, u.Since body start place :=
            List.forall_mem_cons.mpr ⟨ht, hfront⟩
          cases i with
          | accept => exact since_follow before after round fuel hrest hthread
          | consume chars next => exact since_follow before after round fuel hrest hthread
          | choose one other =>
              have hone := hstep one List.mem_cons_self
              have hother := hstep other (List.mem_cons_of_mem _ List.mem_cons_self)
              exact since_follow before after round fuel
                (List.forall_mem_cons.mpr ⟨hone, List.forall_mem_cons.mpr ⟨hother, hrest⟩⟩) hfront
          | save slot next =>
              have hsaved : (Thread.mk next (t.slots.setIfInBounds slot (some place))).Since body
                  start place :=
                ⟨hfits.targets next List.mem_cons_self,
                  ht.slots.save fun hslot => hfits.slot (congrArg some hslot)⟩
              exact since_follow before after round fuel
                (List.forall_mem_cons.mpr ⟨hsaved, hrest⟩) hfront
          | check condition next =>
              have hnext := hstep next List.mem_cons_self
              refine since_follow before after round fuel ?_ hfront
              split
              · exact List.forall_mem_cons.mpr ⟨hnext, hrest⟩
              · exact hrest

/-! ## Steps with a character -/

omit hclosed hcode in
theorem mem_untilAccept : ∀ threads : List Thread,
    (∀ t ∈ (untilAccept p threads).1, t ∈ threads)
      ∧ ∀ slots, (untilAccept p threads).2 = some slots → ∃ t ∈ threads, t.slots = slots
  | [] => ⟨fun _ h => h, fun _ h => (nomatch h)⟩
  | t :: threads => by
      obtain ⟨hlive, hfound⟩ := mem_untilAccept threads
      unfold untilAccept
      split
      · refine ⟨fun _ h => (nomatch h), fun slots h => ⟨t, List.mem_cons_self, Option.some.inj h⟩⟩
      · refine ⟨fun u hu => ?_, fun slots h => ?_⟩
        · rcases List.mem_cons.mp hu with rfl | hu
          · exact List.mem_cons_self
          · exact List.mem_cons_of_mem t (hlive u hu)
        · obtain ⟨u, hu, hslots⟩ := hfound slots h
          exact ⟨u, List.mem_cons_of_mem t hu, hslots⟩

omit hclosed hcode in
theorem eq_some_of_orElse {a b : Option Slots} {slots : Slots} (h : (a <|> b) = some slots) :
    a = some slots ∨ b = some slots := by
  cases a with
  | none => exact .inr h
  | some _ => exact .inl h

theorem since_take? {c : Char} {t t' : Thread} (ht : t.Since body start place)
    (h : t.take? p c = some t') : t'.Since body start (place + 1) := by
  unfold Thread.take? at h
  split at h
  · rename_i chars next hi
    split at h
    · obtain rfl := Option.some.inj h
      exact ⟨(fits_of_state hclosed hcode ht hi).targets next List.mem_cons_self,
        ht.slots.mono (Nat.le_succ _)⟩
    · exact nomatch h
  · exact nomatch h

theorem within_runThreads : ∀ (rest : List Char) {place : Nat} {best : Option Slots}
    {front : Front}, (∀ slots, best = some slots → slots.Within start place) →
      (∀ t ∈ front.threads, t.Since body start place) →
        ∀ slots, runThreads p place best front rest = some slots →
          slots.Within start (place + rest.length)
  | [], place, best, front, hbest, hfront => by
      intro slots h
      unfold runThreads at h
      rcases eq_some_of_orElse h with hfound | hbefore
      · obtain ⟨t, ht, rfl⟩ := (mem_untilAccept _).2 slots hfound
        exact (hfront t (List.mem_reverse.mp ht)).slots
      · exact hbest slots hbefore
  | c :: rest, place, best, front, hbest, hfront => by
      intro slots h
      obtain ⟨hlive, hfound⟩ := mem_untilAccept (p := p) front.threads.reverse
      have hbest' : ∀ slots, ((untilAccept p front.threads.reverse).2 <|> best) = some slots →
          slots.Within start place := by
        intro slots h
        rcases eq_some_of_orElse h with hnow | hbefore
        · obtain ⟨t, ht, rfl⟩ := hfound slots hnow
          exact (hfront t (List.mem_reverse.mp ht)).slots
        · exact hbest slots hbefore
      unfold runThreads at h
      dsimp only at h
      have hplace : place + (c :: rest).length = place + 1 + rest.length := by
        rw [List.length_cons]
        omega
      split at h
      · rw [hplace]
        exact (hbest' slots h).mono (by omega)
      · have hnext : ∀ t ∈ (untilAccept p front.threads.reverse).1.filterMap (Thread.take? p c),
            t.Since body start (place + 1) := by
          intro t ht
          obtain ⟨u, hu, htake⟩ := List.mem_filterMap.mp ht
          exact since_take? hclosed hcode (hfront u (List.mem_reverse.mp (hlive u hu))) htake
        rw [hplace]
        refine within_runThreads rest (fun slots h => (hbest' slots h).mono (Nat.le_succ _)) ?_
          slots h
        exact since_follow hclosed hcode _ _ _ _ hnext fun _ h => nomatch h

end

/-! ## Matches -/

/-- Whether all places of a match lie between `start`, where it begins, and `stop`. -/
structure Match.Within (start stop : Nat) (m : Match) : Prop where
  start_eq : m.whole.start = start
  le_stop : start ≤ m.whole.stop
  stop_le : m.whole.stop ≤ stop
  groups : ∀ span, some span ∈ m.groups →
    start ≤ span.start ∧ span.start ≤ stop ∧ start ≤ span.stop ∧ span.stop ≤ stop

theorem Match.within_ofSlots? {groups start stop : Nat} {slots : Slots} {m : Match}
    (h : slots.Within start stop) (hm : Match.ofSlots? groups slots = some m) :
    m.Within start stop := by
  unfold Match.ofSlots? at hm
  extract_lets spanAt at hm
  have hspan : ∀ (i : Nat) (span : Span), spanAt i = some span →
      slots[2 * i]? = some (some span.start) ∧ slots[2 * i + 1]? = some (some span.stop) := by
    intro i span hspan
    unfold spanAt at hspan
    split at hspan
    · rename_i hstart hstop
      obtain rfl := Option.some.inj hspan
      exact ⟨Option.join_eq_some_iff.mp hstart, Option.join_eq_some_iff.mp hstop⟩
    · exact nomatch hspan
  obtain ⟨whole, hwhole, rfl⟩ := Option.map_eq_some_iff.mp hm
  obtain ⟨hstart, hstop⟩ := hspan 0 whole hwhole
  rw [Nat.mul_zero] at hstart
  have hbegin : start = whole.start :=
    Option.some.inj (Option.some.inj (h.first.symm.trans hstart))
  refine ⟨hbegin.symm, (h.places _ _ hstop).1, (h.places _ _ hstop).2, fun span hmem => ?_⟩
  obtain ⟨i, -, hi⟩ := List.mem_map.mp hmem
  obtain ⟨hfrom, hto⟩ := hspan (i + 1) span hi
  exact ⟨(h.places _ _ hfrom).1, (h.places _ _ hfrom).2, (h.places _ _ hto).1, (h.places _ _ hto).2⟩

/-! ## From the first step on -/

/-- The first slot is all that the first step saves to. -/
theorem within_opened {groups : Nat} (place : Nat) : Slots.Within place place
    ((Array.replicate (2 * (groups + 1)) none).setIfInBounds 0 (some place)) := by
  refine ⟨by simp, fun slot saved hsaved => ?_⟩
  rw [Array.getElem?_setIfInBounds, Array.getElem?_replicate] at hsaved
  split at hsaved
  · simp at hsaved
    omega
  · split at hsaved <;> simp at hsaved

/-- A match begins at the place from which it was looked for, and lies inside the text. -/
theorem Program.within_matchAt? {p : Program} (hp : p.Opened) {before : Option Char} {place : Nat}
    {rest : List Char} {m : Match} (h : p.matchAt? before place rest = some m) :
    m.Within place (place + rest.length) := by
  obtain ⟨body, first, hclosed, hfirst, hcode, hstart⟩ := hp
  obtain ⟨slots, hslots, hm⟩ := Option.bind_eq_some_iff.mp h
  have hnew : (Array.replicate p.code.size 0)[p.start]? ≠ some (place + 1) := by
    rw [Array.getElem?_replicate]
    split <;> simp
  have hopening : p.code[p.start]? = some (.save 0 first) := by
    rw [hcode, hstart, Array.getElem?_push_size]
  have hbegun : (Thread.mk first ((Array.replicate (2 * (p.groups + 1)) none).setIfInBounds 0
      (some place))).Since body place place :=
    ⟨hfirst, within_opened place⟩
  refine Match.within_ofSlots? ?_ hm
  have hnone : ∀ slots, (none : Option Slots) = some slots → slots.Within place place :=
    fun _ h => (nomatch h)
  refine within_runThreads hclosed hcode rest hnone ?_ slots hslots
  rw [follow]
  simp only [beq_eq_false_iff_ne.mpr hnew, hopening]
  exact since_follow hclosed hcode _ _ _ _ (List.forall_mem_singleton.mpr hbegun)
    fun _ h => (nomatch h)

end Daybook.Pattern
