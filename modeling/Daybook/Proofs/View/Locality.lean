import Daybook.Proofs.Script.PlainText
import Daybook.Proofs.View.Wrappers

/-!
# Tokens and their neighbours

A paragraph is made of what its tokens render to, one behind the other, and each token renders to
what it renders to alone, in a view of one line with nothing else in it (`nodesAlone`). For a
definition that compiles, so does the one with a single token of it (`compile_alone`); the tokens of
a line share nothing but the cache, which does not show; and dropping empty texts and making links
are both done node by node (`nodes_lineMeaning`).

So what is changed in one place of a definition (`Slot`) shows in that place alone. A token renders
to nothing if it is no wrapper and its plain text is empty, as for unknown operators and names
(`tokenNodes_eq_nil_iff`), and may as well be left out.
-/

namespace Daybook.View

open Daybook.Calendar Daybook.Link Daybook.Markup Daybook.Script Daybook.Shader

/-! ## Tokens alone -/

/-- A definition of one line with one token, and with all else as in another definition. -/
def Definition.alone (d : Definition) (value : Json.Value) : Definition :=
  { d with article := [[value]] }

/-- The nodes that a token renders to as the only token of a view. -/
def nodesAlone (policy : Policy) (limits : Limits) (d : Definition) (event : Event)
    (value : Json.Value) : List Node :=
  match compile policy limits (d.alone value) with
  | .ok w => (w.render event .empty).1.paragraphs.flatMap (·.nodes)
  | .error _ => []

/-- The paragraph of the nodes that tokens render to, each as the only token of a view. -/
def paragraphAlone (policy : Policy) (limits : Limits) (d : Definition) (event : Event)
    (values : List Json.Value) : Paragraph :=
  ⟨values.flatMap (nodesAlone policy limits d event)⟩

/-- The nodes that a compiled token stands for in a view. -/
def tokenNodes (v : View) (event : Event) (token : Token) : List Node :=
  (v.lineMeaning event [token]).nodes

theorem finish_append (v : View) (front back : List Node) :
    (v.finish ⟨front ++ back⟩).nodes = (v.finish ⟨front⟩).nodes ++ (v.finish ⟨back⟩).nodes := by
  unfold finish
  split
  · exact linkNodes_append front back
  · rfl

theorem lineMeaning_cons (v : View) (event : Event) (token : Token) (line : List Token) :
    (v.lineMeaning event (token :: line)).nodes
      = v.tokenNodes event token ++ (v.lineMeaning event line).nodes := by
  have hsplit : Token.meaningAll (v.context event) (token :: line)
      = Token.meaningAll (v.context event) [token] ++ Token.meaningAll (v.context event) line := by
    simp only [meaningAll_eq_map, List.map_cons, List.map_nil, List.singleton_append]
  rw [tokenNodes, lineMeaning, lineMeaning, lineMeaning, hsplit, Paragraph.ofNodes,
    List.filter_append, finish_append]
  rfl

/-- A line stands for what its tokens stand for, one behind the other. -/
theorem nodes_lineMeaning (v : View) (event : Event) (line : List Token) :
    (v.lineMeaning event line).nodes = line.flatMap (v.tokenNodes event) := by
  induction line with
  | nil =>
      unfold lineMeaning finish
      split <;> rfl
  | cons token line ih => rw [lineMeaning_cons, ih, List.flatMap_cons]

/-! ## Definitions with other lines -/

section

variable {policy : Policy} {limits : Limits} {d : Definition} {v : View}

/-- A definition with fewer and shorter lines than one that compiles compiles to the same view but
for the lines. -/
theorem compile_sublines (h : compile policy limits d = .ok v) {lines : List (List Json.Value)}
    (hlength : lines.length ≤ d.article.length)
    (hsub : ∀ line ∈ lines, ∃ line' ∈ d.article, line.Sublist line') :
    ∃ article, lines.mapM (Grammar.line ⟨.builtin, policy, limits⟩) = .ok article
      ∧ compile policy limits { d with article := lines } = .ok { v with article := article } := by
  -- Compiling looks at the lines and at the rest of a definition separately, so what accepts the
  -- definition accepts the one with less in its lines.
  have haccepted := exists_compileWith_ok_iff.mp ⟨v, h⟩
  have haccepted' : Definition.Acceptable .builtin policy limits { d with article := lines } := by
    constructor
    · exact Nat.le_trans hlength haccepted.lines
    · intro line hline
      obtain ⟨line', hline', hsublist⟩ := hsub line hline
      exact Nat.le_trans hsublist.length_le (haccepted.lineTokens line' hline')
    · exact haccepted.names
    · exact haccepted.literals
    · intro line hline token htoken
      obtain ⟨line', hline', hsublist⟩ := hsub line hline
      exact haccepted.tokens line' hline' token (hsublist.subset htoken)
  obtain ⟨v', h'⟩ := exists_compileWith_ok_iff.mpr haccepted'
  obtain ⟨replacers, shaders, article, -, hreplacers, hshaders, -, rfl⟩ := compileWith_ok_iff.mp h
  obtain ⟨replacers', shaders', article', -, hreplacers', hshaders', harticle', rfl⟩ :=
    compileWith_ok_iff.mp h'
  obtain rfl : replacers' = replacers := Except.ok.inj (hreplacers'.symm.trans hreplacers)
  obtain rfl : shaders' = shaders := Except.ok.inj (hshaders'.symm.trans hshaders)
  exact ⟨article', harticle', h'⟩

/-- Every token of a definition that compiles compiles alone. -/
theorem compile_alone (h : compile policy limits d = .ok v) {values : List Json.Value}
    (hvalues : values ∈ d.article) {value : Json.Value} (hvalue : value ∈ values) :
    ∃ token, Grammar.token ⟨.builtin, policy, limits⟩ 0 value = .ok token
      ∧ compile policy limits (d.alone value) = .ok { v with article := [[token]] } := by
  have hlength : [[value]].length ≤ d.article.length := List.length_pos_of_mem hvalues
  obtain ⟨article, harticle, halone⟩ := compile_sublines h hlength fun line hline => by
    obtain rfl := List.mem_singleton.mp hline
    exact ⟨values, hvalues, List.singleton_sublist.mpr hvalue⟩
  obtain ⟨line, rest, hline, hrest, rfl⟩ := mapM_cons_ok_iff.mp harticle
  obtain ⟨token, tokens, htoken, htokens, rfl⟩ := mapM_cons_ok_iff.mp hline
  obtain rfl := mapM_nil_ok_iff.mp hrest
  obtain rfl := mapM_nil_ok_iff.mp htokens
  exact ⟨token, htoken, halone⟩

/-- A token alone renders to the nodes that it stands for in the view, over any cache that comes
up. -/
theorem render_alone (hv : v.operators = .builtin) (token : Token) (event : Event) {c : Cache}
    (hc : c.Reachable v.shaders) :
    (render { v with article := [[token]] } event c).1.paragraphs
      = [⟨v.tokenNodes event token⟩] := by
  rw [render_builtin (v := { v with article := [[token]] }) hv event hc.sound]
  rfl

theorem nodesAlone_eq (hv : v.operators = .builtin) {value : Json.Value} {token : Token}
    (halone : compile policy limits (d.alone value) = .ok { v with article := [[token]] })
    (event : Event) : nodesAlone policy limits d event value = v.tokenNodes event token := by
  have hempty := render_alone hv token event (Cache.reachable_empty v.shaders)
  rw [nodesAlone, halone]
  show List.flatMap _ (render { v with article := [[token]] } event .empty).1.paragraphs = _
  rw [hempty]
  exact List.append_nil _

/-- Paragraphs are made of what their tokens render to alone. -/
theorem paragraphs_render (h : compile policy limits d = .ok v) (event : Event) {c : Cache}
    (hc : c.Reachable v.shaders) :
    (v.render event c).1.paragraphs = d.article.map (paragraphAlone policy limits d event) := by
  have hv := operators_of_compile h
  have harticle : d.article.mapM (Grammar.line ⟨.builtin, policy, limits⟩) = .ok v.article := by
    obtain ⟨_, _, _, -, -, -, harticle, rfl⟩ := compileWith_ok_iff.mp h
    exact harticle
  rw [render_builtin hv event hc.sound]
  refine map_of_mapM_ok harticle fun values hvalues line hline => congrArg Paragraph.mk ?_
  have htokens : line.map (v.tokenNodes event)
      = values.map (nodesAlone policy limits d event) := by
    refine map_of_mapM_ok hline fun value hvalue token htoken => ?_
    obtain ⟨token', htoken', halone⟩ := compile_alone h hvalues hvalue
    obtain rfl : token = token' := Except.ok.inj (htoken.symm.trans htoken')
    exact (nodesAlone_eq hv halone event).symm
  show (v.lineMeaning event line).nodes = _
  rw [nodes_lineMeaning, List.flatMap_def, List.flatMap_def, htokens]

end

/-! ## Tokens that render to nothing -/

theorem linkNode_ne_nil (node : Node) : linkNode node ≠ [] := by
  cases node with
  | text value =>
      rw [linkNode]
      unfold linkText
      split
      · exact List.cons_ne_nil _ _
      · split
        · exact List.cons_ne_nil _ _
        · exact List.append_ne_nil_of_right_ne_nil _ (List.cons_ne_nil _ _)
  | element tag attributes children =>
      by_cases htag : tag = .a
      · rw [htag, linkNode]
        exact List.cons_ne_nil _ _
      · rw [linkNode_of_ne htag]
        exact List.cons_ne_nil _ _

theorem finish_eq_nil_iff (v : View) {nodes : List Node} :
    (v.finish ⟨nodes⟩).nodes = [] ↔ nodes = [] := by
  cases nodes with
  | nil =>
      unfold finish
      split <;> simp [linkUrls, linkNodes]
  | cons node nodes =>
      refine iff_of_false ?_ (List.cons_ne_nil _ _)
      unfold finish
      split
      · show linkNode node ++ linkNodes nodes ≠ []
        exact List.append_ne_nil_of_left_ne_nil (linkNode_ne_nil node) _
      · exact List.cons_ne_nil _ _

/-- A token renders to nothing exactly when it is no wrapper and its plain text is empty. -/
theorem tokenNodes_eq_nil_iff (v : View) (event : Event) (token : Token) :
    v.tokenNodes event token = []
      ↔ token.isWrapper = false ∧ token.plainText (v.context event) = "" := by
  rw [← isEmptyText_meaning_iff, tokenNodes, lineMeaning, Paragraph.ofNodes, finish_eq_nil_iff,
    meaningAll_eq_map, List.map_singleton, List.filter_eq_nil_iff]
  simp

/-! ## Changes in one place -/

/-- A place in the lines of a definition: between tokens of a line, and between lines. -/
structure Slot where
  before : List (List Json.Value)
  front : List Json.Value
  back : List Json.Value
  after : List (List Json.Value)

/-- The lines with some tokens in a place. -/
def Slot.fill (slot : Slot) (values : List Json.Value) : List (List Json.Value) :=
  slot.before ++ (slot.front ++ values ++ slot.back) :: slot.after

/-- The paragraphs with some nodes in a place, and around it the nodes that the other tokens render
to alone. -/
def Slot.around (policy : Policy) (limits : Limits) (d : Definition) (event : Event) (slot : Slot)
    (nodes : List Node) : List Paragraph :=
  slot.before.map (paragraphAlone policy limits d event) ++
    ⟨slot.front.flatMap (nodesAlone policy limits d event) ++ nodes ++
      slot.back.flatMap (nodesAlone policy limits d event)⟩ ::
    slot.after.map (paragraphAlone policy limits d event)

section

variable {policy : Policy} {limits : Limits} {d : Definition} {v : View}

/-- What a definition renders to that has a token in a place: only one part of one paragraph depends
on that token. -/
theorem paragraphs_render_fill (h : compile policy limits d = .ok v) {slot : Slot}
    {values : List Json.Value} (hslot : d.article = slot.fill values) (event : Event) {c : Cache}
    (hc : c.Reachable v.shaders) :
    (v.render event c).1.paragraphs
      = slot.around policy limits d event (values.flatMap (nodesAlone policy limits d event)) := by
  rw [paragraphs_render h event hc, hslot, Slot.fill, List.map_append, List.map_cons, Slot.around]
  congr 2
  rw [paragraphAlone, List.flatMap_append, List.flatMap_append]

/-- A definition that compiles compiles without the tokens in a place, too. -/
theorem compile_fill_nil (h : compile policy limits d = .ok v) {slot : Slot}
    {values : List Json.Value} (hslot : d.article = slot.fill values) :
    ∃ article, compile policy limits { d with article := slot.fill [] }
      = .ok { v with article := article } := by
  have hlength : (slot.fill []).length ≤ d.article.length := by
    simp [hslot, Slot.fill]
  obtain ⟨article, -, hcompile⟩ := compile_sublines h hlength fun line hline => by
    rw [hslot]
    rcases List.mem_append.mp hline with hbefore | hrest
    · exact ⟨line, List.mem_append_left _ hbefore, List.Sublist.refl _⟩
    · rcases List.mem_cons.mp hrest with rfl | hafter
      · refine ⟨slot.front ++ values ++ slot.back, ?_, ?_⟩
        · exact List.mem_append_right _ List.mem_cons_self
        · rw [List.append_nil]
          exact (List.sublist_append_left _ _).append_right _
      · exact ⟨line, List.mem_append_right _ (List.mem_cons_of_mem _ hafter),
          List.Sublist.refl _⟩
  exact ⟨article, hcompile⟩

end

/-- **Tokens render independently of their neighbours.** Each token of a definition that compiles
compiles alone, to the same view but for the lines, and renders alone to nodes that do not depend on
the cache; it renders to none if it is no wrapper and its plain text is empty. The paragraphs of an
article are made of these nodes, in the order of lines and tokens. So a token that renders to
nothing may be left out without changing the article, and with another token in its place only the
nodes of that token are others. -/
theorem tokens_render_independently {policy : Policy} {limits : Limits} {d : Definition} {v : View}
    (h : compile policy limits d = .ok v) :
    (∀ values ∈ d.article, ∀ value ∈ values, ∃ token,
        Grammar.token ⟨.builtin, policy, limits⟩ 0 value = .ok token
          ∧ compile policy limits (d.alone value) = .ok { v with article := [[token]] }
          ∧ ∀ event,
            (∀ c : Cache, c.Reachable v.shaders →
              (render { v with article := [[token]] } event c).1.paragraphs
                = [⟨nodesAlone policy limits d event value⟩])
            ∧ (nodesAlone policy limits d event value = []
                ↔ token.isWrapper = false ∧ token.plainText (v.context event) = ""))
      ∧ (∀ event (c : Cache), c.Reachable v.shaders →
          (v.render event c).1.paragraphs = d.article.map (paragraphAlone policy limits d event))
      ∧ (∀ (slot : Slot) (value : Json.Value), d.article = slot.fill [value] →
          ∃ article,
            compile policy limits { d with article := slot.fill [] }
                = .ok { v with article := article }
              ∧ ∀ event, nodesAlone policy limits d event value = [] → ∀ c c' : Cache,
                c.Reachable v.shaders → c'.Reachable v.shaders →
                  (render { v with article := article } event c').1 = (v.render event c).1)
      ∧ ∀ (slot : Slot) (value value' : Json.Value) (v' : View), d.article = slot.fill [value] →
          compile policy limits { d with article := slot.fill [value'] } = .ok v' →
            ∀ event (c c' : Cache), c.Reachable v.shaders → c'.Reachable v'.shaders →
              (v.render event c).1.paragraphs
                = slot.around policy limits d event (nodesAlone policy limits d event value)
              ∧ (v'.render event c').1.paragraphs
                = slot.around policy limits d event (nodesAlone policy limits d event value') := by
  have hv := operators_of_compile h
  refine ⟨fun values hvalues value hvalue => ?_, fun event c hc => paragraphs_render h event hc,
    fun slot value hslot => ?_, fun slot value value' v' hslot h' event c c' hc hc' => ?_⟩
  · obtain ⟨token, htoken, halone⟩ := compile_alone h hvalues hvalue
    refine ⟨token, htoken, halone, fun event => ⟨fun c hc => ?_, ?_⟩⟩
    · rw [render_alone hv token event hc, nodesAlone_eq hv halone]
    · rw [nodesAlone_eq hv halone]
      exact tokenNodes_eq_nil_iff v event token
  · obtain ⟨article, hcompile⟩ := compile_fill_nil h hslot
    refine ⟨article, hcompile, fun event hnone c c' hc hc' => ?_⟩
    have hwith := paragraphs_render_fill h hslot event hc
    have hwithout := paragraphs_render_fill hcompile rfl event hc'
    rw [List.flatMap_singleton, hnone] at hwith
    exact congrArg Article.mk (hwithout.trans hwith.symm)
  · have hbefore := paragraphs_render_fill h hslot event hc
    have hafter := paragraphs_render_fill h' rfl event hc'
    rw [List.flatMap_singleton] at hbefore hafter
    exact ⟨hbefore, hafter⟩

/-- A place in a line that follows those of the view of rooms. -/
def gapSlot : Slot where
  before := roomDefinition.article
  front := [.string "See "]
  back := [callOf "var" [.string "_event.description"]]
  after := [[.string "end"]]

/-- The view of rooms with more lines, and a token in that place. -/
def gapDefinition (value : Json.Value) : Definition :=
  { roomDefinition with article := gapSlot.fill [value] }

theorem isSome_compile_gap :
    (compile .standard .standard (gapDefinition (callOf "other" []))).toOption.isSome := by
  decide +kernel

/-- That view with an unknown operator in the place, compiled. -/
def gapView : View :=
  (compile .standard .standard (gapDefinition (callOf "other" []))).toOption.get
    isSome_compile_gap

theorem isSome_compile_marked :
    (compile .standard .standard (gapDefinition (.string "http://a.org/y "))).toOption.isSome := by
  decide +kernel

/-- That view with a URL in the place, compiled. -/
def markedView : View :=
  (compile .standard .standard (gapDefinition (.string "http://a.org/y "))).toOption.get
    isSome_compile_marked

/-- The unknown operator renders to nothing and may be left out, whatever the view has rendered
before; with a URL in its place the nodes around it stay. -/
theorem tokens_render_independently_gap :
    compile .standard .standard (gapDefinition (callOf "other" [])) = .ok gapView
      ∧ nodesAlone .standard .standard (gapDefinition (callOf "other" [])) linkEvent
          (callOf "other" []) = []
      ∧ (gapView.render linkEvent .empty).1.paragraphs
          = (gapSlot.fill [callOf "other" []]).map
              (paragraphAlone .standard .standard (gapDefinition (callOf "other" [])) linkEvent)
      ∧ (∃ article,
          compile .standard .standard
              { gapDefinition (callOf "other" []) with article := gapSlot.fill [] }
            = .ok { gapView with article := article }
          ∧ (render { gapView with article := article } linkEvent
                (gapView.cacheAfter roomEvents)).1
              = (gapView.render linkEvent .empty).1)
      ∧ compile .standard .standard (gapDefinition (.string "http://a.org/y ")) = .ok markedView
      ∧ (gapView.render linkEvent .empty).1.paragraphs
          = gapSlot.around .standard .standard (gapDefinition (callOf "other" [])) linkEvent []
      ∧ (markedView.render linkEvent .empty).1.paragraphs
          = gapSlot.around .standard .standard (gapDefinition (callOf "other" [])) linkEvent
              (nodesAlone .standard .standard (gapDefinition (callOf "other" [])) linkEvent
                (.string "http://a.org/y "))
      ∧ (markedView.render linkEvent .empty).1.paragraphs[2]?.map Paragraph.toHtml
          = some ("<p>See <a href=\"http://a.org/y\">a.org</a> Lecture " ++
              "<a href=\"http://a.org/x\">a.org</a></p>") := by
  have hview : compile .standard .standard (gapDefinition (callOf "other" [])) = .ok gapView :=
    eq_ok_get isSome_compile_gap
  have hmarked : compile .standard .standard (gapDefinition (.string "http://a.org/y "))
      = .ok markedView := eq_ok_get isSome_compile_marked
  have hunknown : OperatorTable.builtin.resolve? "other" = none := by decide +kernel
  have hc : (gapView.cacheAfter roomEvents).Reachable gapView.shaders :=
    reachable_cacheAfter (operators_of_compile hview) roomEvents
  obtain ⟨halone, hlines, hwithout, hwith⟩ := tokens_render_independently hview
  have hempty : nodesAlone .standard .standard (gapDefinition (callOf "other" [])) linkEvent
      (callOf "other" []) = [] := by
    obtain ⟨token, htoken, -, hrender⟩ := halone
      (gapSlot.front ++ [callOf "other" []] ++ gapSlot.back)
      (List.mem_append_right _ List.mem_cons_self) (callOf "other" [])
      (List.mem_append_left _ (List.mem_append_right _ List.mem_cons_self))
    rcases Grammar.token_call_ok htoken with ⟨-, rfl⟩ | ⟨place, _, _, hplace, -⟩
    · exact (hrender linkEvent).2.mpr ⟨rfl, rfl⟩
    · exact nomatch hunknown.symm.trans hplace
  obtain ⟨article, hcompile, hsame⟩ := hwithout gapSlot (callOf "other" []) rfl
  have hchanged := hwith gapSlot (callOf "other" []) (.string "http://a.org/y ") markedView rfl
    hmarked linkEvent .empty .empty (Cache.reachable_empty _) (Cache.reachable_empty _)
  rw [hempty] at hchanged
  refine ⟨hview, hempty, hlines linkEvent .empty (Cache.reachable_empty _),
    ⟨article, hcompile, ?_⟩, hmarked, hchanged.1, hchanged.2, ?_⟩
  · exact hsame linkEvent hempty .empty _ (Cache.reachable_empty _) hc
  · decide +kernel

end Daybook.View
