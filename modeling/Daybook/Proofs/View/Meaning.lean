import Daybook.Proofs.Script.Direct
import Daybook.Proofs.Success
import Daybook.View.Compiled

/-!
# What a view makes of an event

The article that a compiled view stands for, with shaders run anew (`View.meaning`), and the
requests that rendering it makes (`View.requests`). Over a sound cache rendering gives that article
and leaves the cache that replaying the requests leaves (`render_builtin`), and so does rendering
event after event over one cache (`renderAll_builtin`).

What follows is that the cache cannot be seen. Articles do not depend on what was rendered before,
and the counts do not depend on the order in which events came (`renderAll_transparent`).
-/

namespace Daybook.View

open Daybook.Calendar Daybook.Markup Daybook.Pattern Daybook.Replace Daybook.Script Daybook.Shader

/-! ## What a compiled view consists of -/

/-- A view compiles when its definition passes the checks and every part of it compiles. -/
theorem compileWith_ok_iff {operators : OperatorTable} {policy : Policy} {limits : Limits}
    {d : Definition} {v : View} :
    compileWith operators policy limits d = .ok v
      ↔ ∃ replacers shaders article,
          d.check limits = .ok ()
            ∧ d.replacers.traverse (fun _ pairs => Replacer.compile limits pairs) = .ok replacers
            ∧ d.shaders.traverse (fun _ literal => Literal.parse limits literal) = .ok shaders
            ∧ d.article.mapM (Grammar.line ⟨operators, policy, limits⟩) = .ok article
            ∧ v = ⟨d.shownTitle, d.bindings, replacers, shaders, article, operators, policy⟩ := by
  rw [compileWith, bind_ok_iff]
  constructor
  · rintro ⟨_, hcheck, h⟩
    obtain ⟨replacers, hreplacers, h⟩ := bind_ok_iff.mp h
    obtain ⟨shaders, hshaders, h⟩ := bind_ok_iff.mp h
    obtain ⟨article, harticle, h⟩ := bind_ok_iff.mp h
    exact ⟨replacers, shaders, article, hcheck, hreplacers, hshaders, harticle,
      (Except.ok.inj h).symm⟩
  · rintro ⟨replacers, shaders, article, hcheck, hreplacers, hshaders, harticle, rfl⟩
    exact ⟨(), hcheck, bind_ok_iff.mpr ⟨replacers, hreplacers, bind_ok_iff.mpr
      ⟨shaders, hshaders, bind_ok_iff.mpr ⟨article, harticle, rfl⟩⟩⟩⟩

theorem operators_of_compile {policy : Policy} {limits : Limits} {d : Definition} {v : View}
    (h : compile policy limits d = .ok v) : v.operators = .builtin := by
  obtain ⟨_, _, _, -, -, -, -, rfl⟩ := compileWith_ok_iff.mp h
  rfl

/-! ## Meanings -/

/-- What a view does to a paragraph at last: URLs become links, unless its policy is against it. -/
def finish (v : View) (p : Paragraph) : Paragraph :=
  if v.policy.linkUrls then Link.linkUrls p else p

/-- A line is evaluated and the paragraph finished, which does not touch the cache. -/
theorem renderLine_eq (v : View) (event : Event) (line : List Token) (c : Cache) :
    v.renderLine event line c
      = (v.finish (evaluateLine v.operators (v.context event) line c).1,
        (evaluateLine v.operators (v.context event) line c).2) := rfl

theorem finish_of_not_linkUrls {v : View} (h : v.policy.linkUrls = false) (p : Paragraph) :
    v.finish p = p := by
  rw [finish, h, if_neg Bool.false_ne_true]

/-- The paragraph that a line stands for, with shaders run anew. -/
def lineMeaning (v : View) (event : Event) (line : List Token) : Paragraph :=
  v.finish (.ofNodes (Token.meaningAll (v.context event) line))

/-- The article that a view stands for, with shaders run anew. -/
def meaning (v : View) (event : Event) : Article :=
  ⟨v.article.map (v.lineMeaning event)⟩

/-- The requests that rendering an event makes: one for each shader call with a known name and with
operands that read as indices. -/
def requests (v : View) (event : Event) : List Request :=
  v.article.flatMap (Token.requestsAll (v.context event))

/-- The articles of events that are rendered one after the other, over one cache. -/
def renderAll (v : View) : List Event → Cached (List Article)
  | [] => pure []
  | event :: events => do
    let article ← v.render event
    let articles ← v.renderAll events
    return article :: articles

section

variable {v : View} (hv : v.operators = .builtin)

include hv

theorem renderLine_builtin (event : Event) (line : List Token) {c : Cache}
    (hc : c.Sound v.shaders) :
    v.renderLine event line c
      = (v.lineMeaning event line,
        c.answerAll v.shaders (Token.requestsAll (v.context event) line)) := by
  have hsound : c.Sound (v.context event).shaders := hc
  rw [renderLine_eq, hv, evaluateLine_builtin line hsound]
  rfl

theorem renderLines_builtin (event : Event) : ∀ (lines : List (List Token)) {c : Cache},
    c.Sound v.shaders →
    v.renderLines event lines c
      = (lines.map (v.lineMeaning event),
        c.answerAll v.shaders (lines.flatMap (Token.requestsAll (v.context event))))
  | [], _, _ => rfl
  | line :: lines, c, hc => by
      have hline := renderLine_builtin hv event line hc
      have hlines := renderLines_builtin event lines
        (sound_answerAll (Token.requestsAll (v.context event) line) hc)
      rw [renderLines, cached_cons, hline, hlines, List.map_cons, List.flatMap_cons,
        answerAll_append]

/-- Over a sound cache a view renders its meaning and makes its requests. -/
theorem render_builtin (event : Event) {c : Cache} (hc : c.Sound v.shaders) :
    v.render event c = (v.meaning event, c.answerAll v.shaders (v.requests event)) := by
  show (Article.mk (v.renderLines event v.article c).1, (v.renderLines event v.article c).2) = _
  rw [renderLines_builtin hv event v.article hc]
  rfl

theorem renderAll_builtin : ∀ (events : List Event) {c : Cache}, c.Sound v.shaders →
    v.renderAll events c
      = (events.map v.meaning, c.answerAll v.shaders (events.flatMap v.requests))
  | [], _, _ => rfl
  | event :: events, c, hc => by
      have hevent := render_builtin hv event hc
      have hevents := renderAll_builtin events (sound_answerAll (v.requests event) hc)
      rw [renderAll, cached_cons, hevent, hevents, List.map_cons, List.flatMap_cons,
        answerAll_append]

end

theorem allKnown_requests (v : View) (events : List Event) :
    AllKnown v.shaders (events.flatMap v.requests) := by
  intro r hr
  obtain ⟨event, -, hevent⟩ := List.mem_flatMap.mp hr
  obtain ⟨line, -, hline⟩ := List.mem_flatMap.mp hevent
  exact Token.allKnown_requestsAll (v.context event) line r hline

/-! ## The cache cannot be seen -/

/-- The cache after events were rendered one after the other, from the empty one on. -/
def cacheAfter (v : View) (events : List Event) : Cache :=
  (v.renderAll events .empty).2

theorem cacheAfter_builtin {v : View} (hv : v.operators = .builtin) (events : List Event) :
    v.cacheAfter events = Cache.empty.answerAll v.shaders (events.flatMap v.requests) := by
  rw [cacheAfter, renderAll_builtin hv events (Cache.sound_empty v.shaders)]

/-- The cache after some articles is one that comes up. -/
theorem reachable_cacheAfter {v : View} (hv : v.operators = .builtin) (events : List Event) :
    (v.cacheAfter events).Reachable v.shaders :=
  ⟨_, cacheAfter_builtin hv events⟩

theorem size_cacheAfter {v : View} (hv : v.operators = .builtin) (events : List Event) :
    (v.cacheAfter events).size = (events.flatMap v.requests).dedup.length := by
  rw [cacheAfter_builtin hv, size_answerAll_empty (allKnown_requests v events)]

theorem misses_cacheAfter {v : View} (hv : v.operators = .builtin) (events : List Event) :
    (v.cacheAfter events).misses = (v.cacheAfter events).size := by
  rw [cacheAfter_builtin hv]
  exact (sound_answerAll _ (Cache.sound_empty v.shaders)).misses_eq

theorem hits_add_misses_cacheAfter {v : View} (hv : v.operators = .builtin)
    (events : List Event) :
    (v.cacheAfter events).hits + (v.cacheAfter events).misses
      = (events.flatMap v.requests).length := by
  rw [cacheAfter_builtin hv, hits_add_misses_answerAll (allKnown_requests v events)]
  exact Nat.zero_add _

/-- **The cache of a view cannot be seen in its articles, nor the order of events in its counts.**
Whatever a view has rendered before, it renders the article that a fresh copy of it would. Each
pair of a known name and a text that is asked for is kept once and was missed once; hits and misses
together are the shader calls with a known name and readable indices; and in another order the same
events come to the same counts. -/
theorem renderAll_transparent {policy : Policy} {limits : Limits} {d : Definition}
    {v fresh : View} (h : compile policy limits d = .ok v)
    (hfresh : compile policy limits d = .ok fresh) (events : List Event) :
    (v.renderAll events .empty).1 = events.map (fun event => (fresh.render event .empty).1)
      ∧ (v.cacheAfter events).size = (events.flatMap v.requests).dedup.length
      ∧ (v.cacheAfter events).misses = (v.cacheAfter events).size
      ∧ (v.cacheAfter events).hits + (v.cacheAfter events).misses
          = (events.flatMap v.requests).length
      ∧ ∀ events', events.Perm events' →
          (v.cacheAfter events').hits = (v.cacheAfter events).hits
            ∧ (v.cacheAfter events').misses = (v.cacheAfter events).misses
            ∧ (v.cacheAfter events').size = (v.cacheAfter events).size := by
  obtain rfl : v = fresh := Except.ok.inj (h.symm.trans hfresh)
  have hv := operators_of_compile h
  refine ⟨?_, size_cacheAfter hv events, misses_cacheAfter hv events,
    hits_add_misses_cacheAfter hv events, ?_⟩
  · rw [renderAll_builtin hv events (Cache.sound_empty v.shaders)]
    refine List.map_congr_left fun event _ => ?_
    rw [render_builtin hv event (Cache.sound_empty v.shaders)]
  · intro events' hperm
    have hrequests : (events.flatMap v.requests).Perm (events'.flatMap v.requests) :=
      hperm.flatMap_right v.requests
    have hsize : (v.cacheAfter events').size = (v.cacheAfter events).size := by
      rw [size_cacheAfter hv, size_cacheAfter hv, hrequests.dedup.length_eq]
    have hmisses : (v.cacheAfter events').misses = (v.cacheAfter events).misses := by
      rw [misses_cacheAfter hv, misses_cacheAfter hv, hsize]
    have htotal := hits_add_misses_cacheAfter hv events
    rw [hrequests.length_eq, ← hits_add_misses_cacheAfter hv events', hmisses] at htotal
    exact ⟨(Nat.add_right_cancel htotal).symm, hmisses, hsize⟩

/-- A call as it is written in a line. -/
def callOf (name : String) (operands : List Json.Value) : Json.Value :=
  .array (.string name :: operands)

/-- A view with calls inside calls: a room taken out of a summary by a shader, in bold and under a
class from a variable, and the time; then the description with a word replaced. -/
def roomDefinition : Definition where
  title := none
  bindings := .ofList [("kind", .text "lecture")]
  replacers := .ofList [("short", [("/Lecture/", "L")])]
  shaders := .ofList [("room", "/[0-9]+/g")]
  article :=
    [[callOf "<b>" [
        callOf "shader" [callOf "var" [.string "_event.summary"], .string "room", .string "0",
          .string " 0 "],
        callOf "var" [.string "kind"]],
      .string " at ",
      callOf "<time>" [callOf "var" [.string "_event.start"]]],
    [callOf "replace" [callOf "var" [.string "_event.description"], .string "short"]]]

theorem isSome_compile_room :
    (compile .standard .standard roomDefinition).toOption.isSome := by decide +kernel

/-- That view, compiled. -/
def roomView : View :=
  (compile .standard .standard roomDefinition).toOption.get isSome_compile_room

/-- An event with a summary and a description. -/
def roomEvent (summary description : String) : Event where
  uid := ""
  summary := summary
  description := description
  location := ""
  start := ⟨⟨2026, 10, 19⟩, ⟨9, 0, 0, 0⟩, 0⟩
  stop := ⟨⟨2026, 10, 19⟩, ⟨10, 0, 0, 0⟩, 0⟩
  statedDuration := none

/-- Three events, of which two have the same summary. -/
def roomEvents : List Event :=
  [roomEvent "Room 12" "Lecture http://a.org/x", roomEvent "Room 7" "", roomEvent "Room 12" ""]

theorem renderAll_transparent_rooms :
    compile .standard .standard roomDefinition = .ok roomView
      ∧ (roomView.renderAll roomEvents .empty).1
          = roomEvents.map (fun event => (roomView.render event .empty).1)
      ∧ ((roomView.cacheAfter roomEvents).hits, (roomView.cacheAfter roomEvents).misses)
          = (1, 2)
      ∧ (roomView.cacheAfter roomEvents.reverse).hits = (roomView.cacheAfter roomEvents).hits :=
  have hview : compile .standard .standard roomDefinition = .ok roomView :=
    eq_ok_get isSome_compile_room
  have htransparent := renderAll_transparent hview hview roomEvents
  ⟨hview, htransparent.1, by decide +kernel,
    (htransparent.2.2.2.2 _ (List.reverse_perm roomEvents).symm).1⟩

end Daybook.View
