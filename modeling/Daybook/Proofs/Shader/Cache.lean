import Mathlib.Data.List.Dedup
import Daybook.Shader.Cache

/-!
# Caches that tell the truth

A cache is sound when it keeps under each request, once, what the shader of that name gives for that
text, and has missed exactly as often as it keeps something (`Cache.Sound`). The empty cache is, and
every request keeps it so (`matches?_of_sound`), whether it is for a known name or not.

What a cache has come to is a replay of the requests made (`Cache.answerAll`). Over a list of
requests for known names the counts only depend on which requests there were and how many
(`size_answerAll_empty`, `hits_add_misses_answerAll`), and not on their order. The caches that come
up are such replays from the empty one on (`Cache.Reachable`), so they are all sound.
-/

namespace Daybook.Shader

open Daybook.Pattern

variable {shaders : Shaders} {c : Cache} {l : Literal} {r : Request}

/-- Two computations one after the other, the second of which goes on from the first one's cache. -/
theorem cached_cons {α : Type} (first : Cached α) (rest : Cached (List α)) (c : Cache) :
    (do let a ← first
        let as ← rest
        return a :: as : Cached (List α)) c
      = ((first c).1 :: (rest (first c).2).1, (rest (first c).2).2) := rfl

/-! ## Soundness -/

/-- The records of a text under the shader of a name, worked out anew. -/
def runNamed? (shaders : Shaders) (r : Request) : Option (List Record) :=
  (shaders.get? r.name).map (run · r.input)

namespace Cache

/-- The requests under which something is kept. -/
def requests (c : Cache) : List Request :=
  c.kept.map (·.1)

/-- Each request is kept once, with what its shader gives, and every miss has kept one. -/
structure Sound (shaders : Shaders) (c : Cache) : Prop where
  distinct : c.requests.Nodup
  correct : ∀ r records, (r, records) ∈ c.kept → runNamed? shaders r = some records
  misses_eq : c.misses = c.size

theorem sound_empty (shaders : Shaders) : Sound shaders empty :=
  ⟨List.nodup_nil, (fun _ _ h => nomatch h), rfl⟩

theorem mem_of_find? {records : List Record} (h : c.find? r = some records) :
    (r, records) ∈ c.kept := by
  obtain ⟨⟨r', records'⟩, hfind, rfl⟩ := Option.map_eq_some_iff.mp h
  obtain rfl : r' = r := by simpa using List.find?_some hfind
  exact List.mem_of_find?_eq_some hfind

theorem not_mem_of_find?_none (h : c.find? r = none) : r ∉ c.requests := by
  intro hr
  obtain ⟨entry, hentry, rfl⟩ := List.mem_map.mp hr
  have hnone := List.find?_eq_none.mp (Option.map_eq_none_iff.mp h) entry hentry
  simp at hnone

end Cache

/-! ## One request -/

/-- The cache after a request; one for an unknown name does nothing. -/
def Cache.answer (shaders : Shaders) (c : Cache) (r : Request) : Cache :=
  (matches? shaders r.name r.input c).2

theorem matches?_unknown (h : shaders.get? r.name = none) :
    matches? shaders r.name r.input c = (none, c) := by
  rw [matches?, h]; rfl

/-- Asking for a known name is a hit, which only counts, or a miss, which keeps one more entry. -/
theorem matches?_known (h : shaders.get? r.name = some l) :
    (∃ records, c.find? r = some records
        ∧ matches? shaders r.name r.input c = (some records, { c with hits := c.hits + 1 }))
      ∨ (c.find? r = none
        ∧ matches? shaders r.name r.input c = (some (run l r.input),
            { c with kept := (r, run l r.input) :: c.kept, misses := c.misses + 1 })) := by
  have hask : matches? shaders r.name r.input c = (some (ask l r c).1, (ask l r c).2) := by
    rw [matches?, h]; rfl
  cases hfind : c.find? r with
  | some records => exact Or.inl ⟨records, rfl, by rw [hask, ask, hfind]⟩
  | none => exact Or.inr ⟨rfl, by rw [hask, ask, hfind]⟩

/-- A sound cache answers as the shader itself would, and stays sound. -/
theorem matches?_of_sound (hc : c.Sound shaders) (r : Request) :
    (matches? shaders r.name r.input c).1 = runNamed? shaders r
      ∧ (c.answer shaders r).Sound shaders := by
  cases hl : shaders.get? r.name with
  | none =>
      rw [Cache.answer, matches?_unknown hl]
      exact ⟨by rw [runNamed?, hl]; rfl, hc⟩
  | some l =>
      have hrun : runNamed? shaders r = some (run l r.input) := by rw [runNamed?, hl]; rfl
      rcases matches?_known (c := c) hl with ⟨records, hfind, heq⟩ | ⟨hfind, heq⟩
      · rw [Cache.answer, heq]
        exact ⟨(hc.correct r records (Cache.mem_of_find? hfind)).symm,
          hc.distinct, hc.correct, hc.misses_eq⟩
      · rw [Cache.answer, heq]
        refine ⟨hrun.symm, List.nodup_cons.mpr ⟨Cache.not_mem_of_find?_none hfind, hc.distinct⟩,
          ?_, congrArg (· + 1) hc.misses_eq⟩
        intro r' records' hmem
        rcases List.mem_cons.mp hmem with hnew | hold
        · obtain ⟨rfl, rfl⟩ := Prod.mk.injEq .. |>.mp hnew
          exact hrun
        · exact hc.correct r' records' hold

/-- The requests kept after one for a known name are those before and that one. -/
theorem mem_requests_answer (hl : shaders.get? r.name = some l) {r' : Request} :
    r' ∈ (c.answer shaders r).requests ↔ r' = r ∨ r' ∈ c.requests := by
  rw [Cache.answer]
  rcases matches?_known (c := c) hl with ⟨records, hfind, heq⟩ | ⟨-, heq⟩
  · have hr : r ∈ c.requests := List.mem_map.mpr ⟨_, Cache.mem_of_find? hfind, rfl⟩
    rw [heq]
    exact ⟨Or.inr, fun h => h.elim (fun h => h ▸ hr) id⟩
  · rw [heq]
    exact List.mem_cons

/-- Every request for a known name counts once, as a hit or as a miss. -/
theorem hits_add_misses_answer (hl : shaders.get? r.name = some l) :
    (c.answer shaders r).hits + (c.answer shaders r).misses = c.hits + c.misses + 1 := by
  rw [Cache.answer]
  rcases matches?_known (c := c) hl with ⟨records, -, heq⟩ | ⟨-, heq⟩
  · rw [heq]
    exact Nat.add_right_comm ..
  · rw [heq]
    rfl

/-! ## Many requests -/

/-- The cache after some requests, one after the other. -/
def Cache.answerAll (shaders : Shaders) (c : Cache) (rs : List Request) : Cache :=
  rs.foldl (Cache.answer shaders) c

/-- Whether all requests are for names that shaders have. -/
def AllKnown (shaders : Shaders) (rs : List Request) : Prop :=
  ∀ r ∈ rs, ∃ l, shaders.get? r.name = some l

theorem answerAll_append (rs rs' : List Request) :
    c.answerAll shaders (rs ++ rs') = (c.answerAll shaders rs).answerAll shaders rs' :=
  List.foldl_append

theorem sound_answerAll : ∀ (rs : List Request) {c : Cache}, c.Sound shaders →
    (c.answerAll shaders rs).Sound shaders
  | [], _, hc => hc
  | r :: rs, _, hc => sound_answerAll rs (matches?_of_sound hc r).2

theorem mem_requests_answerAll : ∀ {rs : List Request} {c : Cache}, AllKnown shaders rs →
    ∀ r, r ∈ (c.answerAll shaders rs).requests ↔ r ∈ rs ∨ r ∈ c.requests
  | [], _, _, r => by simp [Cache.answerAll]
  | r' :: rs, c, hknown, r => by
      obtain ⟨l, hl⟩ := hknown r' List.mem_cons_self
      have hrest := mem_requests_answerAll (c := c.answer shaders r')
        (fun s hs => hknown s (List.mem_cons_of_mem _ hs)) r
      rw [Cache.answerAll, List.foldl_cons, ← Cache.answerAll, hrest, mem_requests_answer hl,
        List.mem_cons]
      tauto

theorem hits_add_misses_answerAll : ∀ {rs : List Request} {c : Cache}, AllKnown shaders rs →
    (c.answerAll shaders rs).hits + (c.answerAll shaders rs).misses
      = c.hits + c.misses + rs.length
  | [], _, _ => rfl
  | r :: rs, c, hknown => by
      obtain ⟨l, hl⟩ := hknown r List.mem_cons_self
      have hrest := hits_add_misses_answerAll (c := c.answer shaders r)
        (fun s hs => hknown s (List.mem_cons_of_mem _ hs))
      rw [Cache.answerAll, List.foldl_cons, ← Cache.answerAll, hrest, hits_add_misses_answer hl,
        List.length_cons]
      omega

/-- From the empty cache on, a cache keeps one entry for each request there was. -/
theorem size_answerAll_empty {rs : List Request} (hknown : AllKnown shaders rs) :
    (Cache.empty.answerAll shaders rs).size = rs.dedup.length := by
  have hsound := sound_answerAll rs (Cache.sound_empty shaders)
  have hmem : ∀ r, r ∈ (Cache.empty.answerAll shaders rs).requests ↔ r ∈ rs.dedup := fun r => by
    rw [mem_requests_answerAll hknown, List.mem_dedup]
    exact ⟨fun h => h.elim id (fun h => nomatch h), Or.inl⟩
  have hperm := (List.perm_ext_iff_of_nodup hsound.distinct rs.nodup_dedup).mpr hmem
  rw [← hperm.length_eq, Cache.requests, List.length_map, Cache.size]

/-! ## Reachable caches -/

/-- Whether a cache comes from the empty one by requests, which is all that is ever done to one. The
requests may be for unknown names, too. -/
def Cache.Reachable (shaders : Shaders) (c : Cache) : Prop :=
  ∃ rs, c = Cache.empty.answerAll shaders rs

theorem Cache.reachable_empty (shaders : Shaders) : Cache.empty.Reachable shaders :=
  ⟨[], rfl⟩

theorem Cache.Reachable.answerAll (h : c.Reachable shaders) (rs : List Request) :
    (c.answerAll shaders rs).Reachable shaders := by
  obtain ⟨rs₀, rfl⟩ := h
  exact ⟨rs₀ ++ rs, (answerAll_append rs₀ rs).symm⟩

theorem Cache.Reachable.sound (h : c.Reachable shaders) : c.Sound shaders := by
  obtain ⟨rs, rfl⟩ := h
  exact sound_answerAll rs (Cache.sound_empty shaders)

end Daybook.Shader
