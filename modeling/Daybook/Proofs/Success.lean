import Daybook.NameMap

/-!
# Computations that succeed

How a computation that may fail comes to succeed: every step of it did (`bind_ok_iff`), and every
item of a list did (`mapM_cons_ok_iff`, `forM_ok_iff`).

A computation is less defined than another one if the other gives all that it gives and may succeed
besides where it fails (`LessDefined`). This carries over from the steps of computations to their
sequences, from the guards of a computation (`LessDefined.guard`) up to passes over lists and maps.
-/

namespace Daybook

variable {ε α β : Type}

theorem bind_ok_iff {x : Except ε α} {f : α → Except ε β} {b : β} :
    x >>= f = .ok b ↔ ∃ a, x = .ok a ∧ f a = .ok b := by
  cases x with
  | error e => exact ⟨(nomatch ·), fun ⟨_, h, _⟩ => nomatch h⟩
  | ok a => exact ⟨fun h => ⟨a, rfl, h⟩, fun ⟨_, rfl, h⟩ => h⟩

theorem mapError_ok_iff {ε' : Type} {x : Except ε α} {f : ε → ε'} {a : α} :
    x.mapError f = .ok a ↔ x = .ok a := by
  cases x with
  | error e => exact ⟨nofun, nofun⟩
  | ok a' => exact ⟨fun h => congrArg _ (Except.ok.inj h), fun h => congrArg _ (Except.ok.inj h)⟩

theorem eq_ok_get {x : Except ε α} (h : x.toOption.isSome) : x = .ok (x.toOption.get h) := by
  cases x with
  | error e => exact nomatch h
  | ok a => rfl

theorem eq_ok_of_toOption {x : Except ε α} {a : α} (h : x.toOption = some a) : x = .ok a := by
  cases x with
  | error e => exact nomatch h
  | ok a' => exact congrArg _ (Option.some.inj h)

theorem exists_ok_of_any {x : Except ε α} {p : α → Bool} (h : x.toOption.any p = true) :
    ∃ a, x = .ok a ∧ p a = true := by
  cases x with
  | error e => exact nomatch h
  | ok a => exact ⟨a, rfl, h⟩

theorem mapM_nil_ok_iff {f : α → Except ε β} {bs : List β} :
    [].mapM f = .ok bs ↔ bs = [] := by
  rw [List.mapM_nil]
  exact ⟨fun h => (Except.ok.inj h).symm, fun h => h ▸ rfl⟩

theorem mapM_cons_ok_iff {f : α → Except ε β} {a : α} {as : List α} {bs : List β} :
    (a :: as).mapM f = .ok bs ↔ ∃ b bs', f a = .ok b ∧ as.mapM f = .ok bs' ∧ bs = b :: bs' := by
  rw [List.mapM_cons, bind_ok_iff]
  constructor
  · rintro ⟨b, hb, h⟩
    obtain ⟨bs', hbs, h⟩ := bind_ok_iff.mp h
    exact ⟨b, bs', hb, hbs, (Except.ok.inj h).symm⟩
  · rintro ⟨b, bs', hb, hbs, rfl⟩
    exact ⟨b, hb, bind_ok_iff.mpr ⟨bs', hbs, rfl⟩⟩

theorem forM_ok_iff {f : α → Except ε Unit} {as : List α} :
    as.forM f = .ok () ↔ ∀ a ∈ as, f a = .ok () := by
  induction as with
  | nil => exact ⟨fun _ _ h => (nomatch h), fun _ => rfl⟩
  | cons a as ih =>
      rw [List.forall_mem_cons, ← ih]
      refine Iff.trans bind_ok_iff ?_
      exact ⟨fun ⟨_, ha, has⟩ => ⟨ha, has⟩, fun ⟨ha, has⟩ => ⟨(), ha, has⟩⟩

/-- What a pass over a list gives, item by item, can be read off the list. -/
theorem map_of_mapM_ok {γ : Type} {f : α → Except ε β} {g : β → γ} {k : α → γ} {as : List α}
    {bs : List β} (h : as.mapM f = .ok bs) (hk : ∀ a ∈ as, ∀ b, f a = .ok b → g b = k a) :
    bs.map g = as.map k := by
  induction as generalizing bs with
  | nil =>
      obtain rfl := mapM_nil_ok_iff.mp h
      rfl
  | cons a as ih =>
      obtain ⟨b, bs', hb, hbs, rfl⟩ := mapM_cons_ok_iff.mp h
      have hrest := ih hbs fun a' ha' => hk a' (List.mem_cons_of_mem _ ha')
      rw [List.map_cons, List.map_cons, hk a List.mem_cons_self b hb, hrest]

/-! ## Less defined computations -/

/-- Whether what the first computation gives is given by the second one, too. -/
def LessDefined (x y : Except ε α) : Prop :=
  ∀ a, x = .ok a → y = .ok a

namespace LessDefined

variable {x y : Except ε α}

theorem refl (x : Except ε α) : LessDefined x x :=
  fun _ h => h

/-- A computation that stops on one condition is less defined than one that stops on a condition
that holds less often. -/
theorem guard {p q : Prop} [Decidable p] [Decidable q] (hpq : q → p) (h : LessDefined x y)
    (e e' : ε) :
    LessDefined (if p then .error e else x) (if q then .error e' else y) := by
  intro a ha
  by_cases hp : p
  · rw [if_pos hp] at ha
    exact nomatch ha
  · rw [if_neg hp] at ha
    rw [if_neg fun hq => hp (hpq hq)]
    exact h a ha

theorem bind (h : LessDefined x y) {f g : α → Except ε β} (hfg : ∀ a, LessDefined (f a) (g a)) :
    LessDefined (x >>= f) (y >>= g) := by
  intro b hb
  obtain ⟨a, ha, hb⟩ := bind_ok_iff.mp hb
  exact bind_ok_iff.mpr ⟨a, h a ha, hfg a b hb⟩

theorem map (h : LessDefined x y) (f : α → β) : LessDefined (x.map f) (y.map f) := by
  cases x with
  | error e => exact fun _ hb => nomatch hb
  | ok a => rw [h a rfl]; exact refl _

theorem mapError (h : LessDefined x y) {ε' : Type} (f : ε → ε') :
    LessDefined (x.mapError f) (y.mapError f) := by
  cases x with
  | error e => exact fun _ ha => nomatch ha
  | ok a => rw [h a rfl]; exact refl _

theorem mapM {f g : α → Except ε β} : ∀ {as : List α},
    (∀ a ∈ as, LessDefined (f a) (g a)) → LessDefined (as.mapM f) (as.mapM g)
  | [], _ => refl _
  | a :: as, h => by
      have hrest := mapM fun a' ha' => h a' (List.mem_cons_of_mem a ha')
      rw [List.mapM_cons, List.mapM_cons]
      exact (h a List.mem_cons_self).bind fun _ => hrest.bind fun _ => refl _

theorem traverse {f g : String → α → Except ε β} (h : ∀ name a, LessDefined (f name a) (g name a))
    (m : NameMap α) : LessDefined (m.traverse f) (m.traverse g) :=
  (mapM fun entry _ => (h entry.1 entry.2).map fun b => (entry.1, b)).map NameMap.ofList

end LessDefined

end Daybook
