import Daybook.Proofs.Shader.Levels

/-!
# Calls of shaders

What is done with shaders by name: one asks for all records of a text, or for one group of one of
them (`Call`). Every call comes down to a request, so a run of calls leaves the cache as the replay
of its requests does (`performAll_snd`), and with a cache that tells the truth it gives what the
calls give without any (`performAll_fst`).

What is kept stays: later requests only put more in front of it (`kept_suffix_answerAll`). How much
is kept is told by the requests for names that there are, each counted once, and they all count as
a hit or a miss; the rest leave no trace (`answerAll_filter`).
-/

namespace Daybook.Shader

open Daybook.Pattern

variable {shaders : Shaders} {c : Cache} {r : Request}

/-! ## Calls -/

/-- A call for the records of a text under the shader of a name, or for a group of one of them. -/
inductive Call where
  | records (r : Request)
  | group (r : Request) (index number : Nat)
deriving DecidableEq, Repr

/-- What a call gives. -/
inductive Answer where
  | records (found : Option (List Record))
  | group (found : Option String)
deriving DecidableEq, Repr

namespace Call

/-- What a call asks for. -/
def request : Call → Request
  | .records r => r
  | .group r _ _ => r

/-- What a call makes of the records it asked for, if there is a shader of the name. -/
def answer : Call → Option (List Record) → Answer
  | .records _, found => .records found
  | .group _ index number, found =>
    .group (found.bind fun all => all[index]?.bind (·.group? number))

/-- What a call gives with a cache, and what becomes of that. -/
def perform (shaders : Shaders) : Call → Cached Answer
  | .records r => .records <$> matches? shaders r.name r.input
  | .group r index number => .group <$> extract? shaders r.name r.input index number

/-- What a call gives without a cache. -/
def direct (shaders : Shaders) (call : Call) : Answer :=
  call.answer (runNamed? shaders call.request)

/-- What a call gives with two levels, and what becomes of those. -/
def performLevels (shaders : Shaders) (call : Call) : StateM Levels Answer :=
  fun t =>
    match shaders.get? call.request.name with
    | none => (call.answer none, t)
    | some l =>
      let (found, t) := Levels.ask l call.request t
      (call.answer (some found), t)

end Call

/-- Calls one after the other. -/
def performAll {σ : Type} (perform : Call → StateM σ Answer) : List Call → StateM σ (List Answer)
  | [] => pure []
  | call :: calls => do
    let answer ← perform call
    let answers ← performAll perform calls
    return answer :: answers

theorem performAll_cons {σ : Type} (perform : Call → StateM σ Answer) (call : Call)
    (calls : List Call) (s : σ) : performAll perform (call :: calls) s
      = ((perform call s).1 :: (performAll perform calls (perform call s).2).1,
        (performAll perform calls (perform call s).2).2) :=
  rfl

theorem perform_eq (shaders : Shaders) (call : Call) (c : Cache) : call.perform shaders c
    = (call.answer (matches? shaders call.request.name call.request.input c).1,
      c.answer shaders call.request) := by
  cases call <;> rfl

/-- A run of calls leaves the cache as a replay of their requests does. -/
theorem performAll_snd (calls : List Call) (c : Cache) :
    (performAll (Call.perform shaders) calls c).2
      = c.answerAll shaders (calls.map Call.request) := by
  induction calls generalizing c with
  | nil => rfl
  | cons call calls ih =>
      rw [performAll_cons, ih, perform_eq]
      rfl

/-- With a sound cache calls give what they give without one. -/
theorem performAll_fst (calls : List Call) (hc : c.Sound shaders) :
    (performAll (Call.perform shaders) calls c).1 = calls.map (Call.direct shaders) := by
  induction calls generalizing c with
  | nil => rfl
  | cons call calls ih =>
      obtain ⟨hanswer, hsound⟩ := matches?_of_sound hc call.request
      rw [performAll_cons, List.map_cons, perform_eq, ih hsound, hanswer]
      rfl

/-- Two levels that represent a cache can take its place in a run of calls. -/
theorem performAll_levels {t : Levels} (calls : List Call) (h : t.Represents c) :
    (performAll (Call.performLevels shaders) calls t).1
        = (performAll (Call.perform shaders) calls c).1
      ∧ (performAll (Call.performLevels shaders) calls t).2.Represents
        (performAll (Call.perform shaders) calls c).2 := by
  induction calls generalizing t c with
  | nil => exact ⟨rfl, h⟩
  | cons call calls ih =>
      have hstep : (call.performLevels shaders t).1 = (call.perform shaders c).1
          ∧ (call.performLevels shaders t).2.Represents (call.perform shaders c).2 := by
        rw [perform_eq, Call.performLevels, Cache.answer, matches?]
        cases shaders.get? call.request.name with
        | none => exact ⟨rfl, h⟩
        | some l =>
            obtain ⟨hrecords, hkept⟩ := represents_ask h l call.request
            exact ⟨congrArg (fun records => call.answer (some records)) hrecords, hkept⟩
      obtain ⟨hanswers, hkept⟩ := ih hstep.2
      rw [performAll_cons, performAll_cons, hstep.1, hanswers]
      exact ⟨rfl, hkept⟩

/-! ## What is kept stays -/

theorem kept_suffix_answer (c : Cache) (r : Request) : c.kept <:+ (c.answer shaders r).kept := by
  cases hl : shaders.get? r.name with
  | none =>
      have hsame : c.answer shaders r = c := congrArg Prod.snd (matches?_unknown hl)
      exact ⟨[], congrArg Cache.kept hsame.symm⟩
  | some l =>
      rcases matches?_known (c := c) hl with ⟨records, -, heq⟩ | ⟨-, heq⟩
      · exact ⟨[], congrArg (fun out => out.2.kept) heq.symm⟩
      · exact ⟨[(r, run l r.input)], congrArg (fun out => out.2.kept) heq.symm⟩

theorem kept_suffix_answerAll (rs : List Request) (c : Cache) :
    c.kept <:+ (c.answerAll shaders rs).kept := by
  induction rs generalizing c with
  | nil => exact List.suffix_rfl
  | cons r rs ih => exact (kept_suffix_answer c r).trans (ih (c.answer shaders r))

/-- A sound cache keeps what the shaders give for the requests it knows. -/
theorem mem_kept_iff (hc : c.Sound shaders) {records : List Record} :
    (r, records) ∈ c.kept ↔ r ∈ c.requests ∧ runNamed? shaders r = some records := by
  constructor
  · intro hmem
    exact ⟨List.mem_map_of_mem hmem, hc.correct r records hmem⟩
  · rintro ⟨hr, hrun⟩
    obtain ⟨⟨r', records'⟩, hmem, rfl⟩ := List.mem_map.mp hr
    rw [hc.correct r' records' hmem] at hrun
    rwa [← Option.some.inj hrun]

/-- In a sound cache what is kept under a request is found. -/
theorem find?_eq_some_iff (hc : c.Sound shaders) {records : List Record} :
    c.find? r = some records ↔ (r, records) ∈ c.kept := by
  refine ⟨Cache.mem_of_find?, fun hmem => ?_⟩
  cases hfind : c.find? r with
  | none => exact absurd (List.mem_map_of_mem hmem) (Cache.not_mem_of_find?_none hfind)
  | some records' =>
      have hkept := Cache.mem_of_find? hfind
      exact (hc.correct r records' hkept).symm.trans (hc.correct r records hmem)

/-! ## Unknown names -/

/-- Whether a request is for a name that there is. -/
def isKnown (shaders : Shaders) (r : Request) : Bool :=
  (shaders.get? r.name).isSome

/-- Requests for unknown names leave no trace. -/
theorem answerAll_filter (rs : List Request) (c : Cache) :
    c.answerAll shaders (rs.filter (isKnown shaders)) = c.answerAll shaders rs := by
  induction rs generalizing c with
  | nil => rfl
  | cons r rs ih =>
      cases hl : shaders.get? r.name with
      | none =>
          have hanswer : c.answer shaders r = c := by rw [Cache.answer, matches?_unknown hl]
          rw [List.filter_cons_of_neg (by simp [isKnown, hl]), ih, Cache.answerAll,
            Cache.answerAll, List.foldl_cons, hanswer]
      | some l =>
          rw [List.filter_cons_of_pos (by simp [isKnown, hl]), Cache.answerAll, List.foldl_cons,
            ← Cache.answerAll, ih]
          rfl

theorem runNamed?_eq_none_iff : runNamed? shaders r = none ↔ isKnown shaders r = false := by
  rw [runNamed?, Option.map_eq_none_iff, isKnown, Option.isSome_eq_false_iff,
    Option.isNone_iff_eq_none]

theorem allKnown_filter (rs : List Request) : AllKnown shaders (rs.filter (isKnown shaders)) :=
  fun _ hr => Option.isSome_iff_exists.mp (List.mem_filter.mp hr).2

/-! ## Any calls -/

/-- **Calls of shaders, in any order.** After any calls from the empty cache on, each answer is what
the call gives without a cache, nothing only for unknown names. What is kept is what the shader of a
known name gives for a text, once for every such name and text that was asked for, and it is found;
later calls keep all of it as it is. There were as many misses as there are entries, and as many
hits and misses as there were calls for a known name. Keeping the records by name first and then by
text makes no difference. -/
theorem performAll_keeps (shaders : Shaders) (calls later : List Call) :
    let run := performAll (Call.perform shaders)
    let after := run calls .empty
    let asked := (calls.map Call.request).filter (isKnown shaders)
    after.1 = calls.map (Call.direct shaders)
      ∧ (∀ r, runNamed? shaders r = none ↔ isKnown shaders r = false)
      ∧ after.2.requests.Nodup
      ∧ (∀ r records, (r, records) ∈ after.2.kept
        ↔ r ∈ asked ∧ runNamed? shaders r = some records)
      ∧ (∀ r records, after.2.find? r = some records ↔ (r, records) ∈ after.2.kept)
      ∧ after.2.kept <:+ (run later after.2).2.kept
      ∧ (∀ r records, after.2.find? r = some records →
        (run later after.2).2.find? r = some records)
      ∧ after.2.misses = after.2.size
      ∧ after.2.size = asked.dedup.length
      ∧ after.2.hits + after.2.misses = asked.length
      ∧ (performAll (Call.performLevels shaders) calls .empty).1 = after.1
      ∧ (performAll (Call.performLevels shaders) calls .empty).2.Represents after.2 := by
  intro run after asked
  have hcache : after.2 = Cache.empty.answerAll shaders asked := by
    rw [answerAll_filter]
    exact performAll_snd calls .empty
  have hknown : AllKnown shaders asked := allKnown_filter _
  have hsound : after.2.Sound shaders := by
    rw [hcache]
    exact sound_answerAll asked (Cache.sound_empty shaders)
  have hlater : (run later after.2).2 = after.2.answerAll shaders (later.map Call.request) :=
    performAll_snd later after.2
  have hrequests : ∀ r, r ∈ after.2.requests ↔ r ∈ asked := by
    intro r
    rw [hcache, mem_requests_answerAll hknown]
    exact ⟨fun h => h.elim id (fun h => nomatch h), .inl⟩
  have hsuffix : after.2.kept <:+ (run later after.2).2.kept := by
    rw [hlater]
    exact kept_suffix_answerAll _ _
  refine ⟨performAll_fst calls (Cache.sound_empty shaders), fun r => runNamed?_eq_none_iff,
    hsound.distinct, fun r records => ?_, fun r records => find?_eq_some_iff hsound, hsuffix,
    fun r records hfind => ?_, hsound.misses_eq, ?_, ?_,
    performAll_levels calls Levels.represents_empty⟩
  · rw [mem_kept_iff hsound, hrequests]
  · have hsoundLater : (run later after.2).2.Sound shaders := by
      rw [hlater]
      exact sound_answerAll _ hsound
    have hkept := (find?_eq_some_iff hsound).mp hfind
    exact (find?_eq_some_iff hsoundLater).mpr (hsuffix.subset hkept)
  · rw [hcache]
    exact size_answerAll_empty hknown
  · rw [hcache, hits_add_misses_answerAll hknown]
    exact Nat.zero_add _

private theorem isSome_parse_digits : (Literal.parse .standard "/([0-9]+)/").toOption.isSome := by
  decide +kernel

private theorem isSome_parse_letters : (Literal.parse .standard "/([A-Z]+)/").toOption.isSome := by
  decide +kernel

private def digitsAndLetters : Shaders :=
  .ofList [("digits", (Literal.parse .standard "/([0-9]+)/").toOption.get isSome_parse_digits),
    ("letters", (Literal.parse .standard "/([A-Z]+)/").toOption.get isSome_parse_letters)]

/-- One text under two names, each asked for twice, and one under a name that there is not. -/
private def mixedCalls : List Call :=
  [.group ⟨"digits", "101_MATH"⟩ 0 1, .group ⟨"letters", "101_MATH"⟩ 0 1,
    .group ⟨"missing", "101_MATH"⟩ 0 1, .group ⟨"letters", "101_MATH"⟩ 0 5,
    .records ⟨"digits", "101_MATH"⟩]

/-- Each of two shaders is run once on a text, whatever is asked of it. -/
theorem performAll_mixedCalls :
    let after := performAll (Call.perform digitsAndLetters) mixedCalls .empty
    after.1 = [.group (some "101"), .group (some "MATH"), .group none, .group none,
        .records (some [⟨[some "101", some "101"]⟩])]
      ∧ after.2.misses = 2 ∧ after.2.hits = 2 ∧ after.2.size = 2 := by
  intro after
  obtain ⟨hanswers, -, -, -, -, -, -, hmisses, hsize, hcount, -⟩ :=
    performAll_keeps digitsAndLetters mixedCalls []
  have hdistinct : ((mixedCalls.map Call.request).filter
      (isKnown digitsAndLetters)).dedup.length = 2 := by
    decide +kernel
  have hasked : ((mixedCalls.map Call.request).filter (isKnown digitsAndLetters)).length = 4 := by
    decide +kernel
  have hdirect : mixedCalls.map (Call.direct digitsAndLetters) = [.group (some "101"),
      .group (some "MATH"), .group none, .group none,
      .records (some [⟨[some "101", some "101"]⟩])] := by
    decide +kernel
  have hentries : after.2.size = 2 := hsize.trans hdistinct
  have hmissed : after.2.misses = 2 := hmisses.trans hentries
  have htotal : after.2.hits + after.2.misses = 4 := hcount.trans hasked
  exact ⟨hanswers.trans hdirect, hmissed, by omega, hentries⟩

end Daybook.Shader
