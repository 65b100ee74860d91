import Daybook.Markup.Html
import Daybook.Proofs.Markup.NormalForm

/-!
# Reading HTML back

A reader for the language in which articles are written. It goes through a text one character at a
time (`step`), as a browser does: between tags `<` begins a tag and `&` an entity, inside a quoted
value `"` ends the value and `&` begins an entity, and every other character stands for itself.
Tags and attributes outside the vocabulary, tags that do not match and other entities are refused.

`run_append` lets every piece of an article be read on its own. The lemmas below it say what each
piece does to a reader: a name, an encoded text, an attribute and an opening tag.
-/

namespace Daybook.Markup.HtmlReader

open Daybook.Text

/-! ## What has been read -/

/-- The tags and attributes that can be read. -/
def allTags : List Tag :=
  [.span, .strong, .em, .i, .b, .time, .abbr, .a]

def allAttributeNames : List AttributeName :=
  [.className, .datetime, .href, .id, .title]

/-- The tag with a name. -/
def tag? (name : List Char) : Option Tag :=
  allTags.find? (·.name.toList = name)

/-- The attribute with a name. -/
def attributeName? (name : List Char) : Option AttributeName :=
  allAttributeNames.find? (·.name.toList = name)

/-- An element that is still open, with the nodes before it in the same parent. -/
structure OpenElement where
  tag : Tag
  attributes : List Attribute
  before : List Node

/-- Where in an article reading stands, with what was read so far. Inside a paragraph these are the
elements still open, innermost first, and the nodes of the innermost one. -/
inductive Site where
  | start
  | article (paragraphs : List Paragraph)
  | paragraph (paragraphs : List Paragraph) (opened : List OpenElement) (nodes : List Node)
  | finished (article : Article)

/-- Nodes with one more character of text at the end. -/
def addChar : List Node → Char → List Node
  | [], c => [.text (String.singleton c)]
  | [.text value], c => [.text (value ++ String.singleton c)]
  | node :: nodes, c => node :: addChar nodes c

namespace Site

/-- A character of text; there is none outside paragraphs. -/
def readChar : Site → Char → Option Site
  | .paragraph paragraphs opened nodes, c => some (.paragraph paragraphs opened (addChar nodes c))
  | _, _ => none

/-- An opening tag. -/
def openTag (site : Site) (name : List Char) (attributes : List Attribute) : Option Site :=
  match site with
  | .start => if name = "article".toList && attributes.isEmpty then some (.article []) else none
  | .article paragraphs =>
    if name = ['p'] && attributes.isEmpty then some (.paragraph paragraphs [] []) else none
  | .paragraph paragraphs opened nodes =>
    (tag? name).map (fun tag => .paragraph paragraphs (⟨tag, attributes, nodes⟩ :: opened) [])
  | .finished _ => none

/-- A closing tag, which has to be the one of the innermost element. -/
def closeTag (site : Site) (name : List Char) : Option Site :=
  match site with
  | .paragraph paragraphs (element :: opened) nodes =>
    if name = element.tag.name.toList then
      some (.paragraph paragraphs opened
        (element.before ++ [.element element.tag element.attributes nodes]))
    else none
  | .paragraph paragraphs [] nodes =>
    if name = ['p'] then some (.article (paragraphs ++ [⟨nodes⟩])) else none
  | .article paragraphs =>
    if name = "article".toList then some (.finished ⟨paragraphs⟩) else none
  | _ => none

end Site

/-! ## One character at a time -/

/-- An opening tag as far as it was read: its name and its attributes. -/
structure Head where
  name : List Char
  attributes : List Attribute

/-- Where encoded characters can stand: between tags, or in the value of an attribute. -/
inductive Slot where
  | text
  | value (head : Head) (name : AttributeName) (value : List Char)

/-- What kind of character comes next. -/
inductive Mode where
  | slot (slot : Slot)
  | entity (slot : Slot) (name : List Char)
  | tagStart
  | openingName (name : List Char)
  | closingName (name : List Char)
  | attributeName (head : Head) (name : List Char)
  | quote (head : Head) (name : AttributeName)
  | afterValue (head : Head)

/-- A reader between two characters. -/
structure State where
  mode : Mode
  site : Site

/-- Takes a decoded character in. -/
def put (slot : Slot) (site : Site) (c : Char) : Option State :=
  match slot with
  | .text => (site.readChar c).map (⟨.slot .text, ·⟩)
  | .value head name value => some ⟨.slot (.value head name (value ++ [c])), site⟩

/-- Takes an opening tag in. -/
def openHead (head : Head) (site : Site) : Option State :=
  (site.openTag head.name head.attributes).map (⟨.slot .text, ·⟩)

/-- The reader after one more character, unless that cannot stand there. -/
def step (s : State) (c : Char) : Option State :=
  match s.mode with
  | .slot slot =>
    if c = '&' then some ⟨.entity slot [], s.site⟩
    else match slot with
      | .text => if c = '<' then some ⟨.tagStart, s.site⟩ else put .text s.site c
      | .value head name value =>
        if c = '"' then
          some ⟨.afterValue ⟨head.name, head.attributes ++ [⟨name, String.ofList value⟩]⟩, s.site⟩
        else put slot s.site c
  | .entity slot name =>
    if c = ';' then
      match Entity.readEntity? ('&' :: name ++ [';']) with
      | some (decoded, []) => put slot s.site decoded
      | _ => none
    else some ⟨.entity slot (name ++ [c]), s.site⟩
  | .tagStart =>
    if c = '/' then some ⟨.closingName [], s.site⟩ else some ⟨.openingName [c], s.site⟩
  | .openingName name =>
    if c = '>' then openHead ⟨name, []⟩ s.site
    else if c = ' ' then some ⟨.attributeName ⟨name, []⟩ [], s.site⟩
    else some ⟨.openingName (name ++ [c]), s.site⟩
  | .closingName name =>
    if c = '>' then (s.site.closeTag name).map (⟨.slot .text, ·⟩)
    else some ⟨.closingName (name ++ [c]), s.site⟩
  | .attributeName head name =>
    if c = '=' then (attributeName? name).map (⟨.quote head ·, s.site⟩)
    else some ⟨.attributeName head (name ++ [c]), s.site⟩
  | .quote head name => if c = '"' then some ⟨.slot (.value head name []), s.site⟩ else none
  | .afterValue head =>
    if c = '>' then openHead head s.site
    else if c = ' ' then some ⟨.attributeName head [], s.site⟩
    else none

/-- The reader after some more characters. -/
def run : State → List Char → Option State
  | s, [] => some s
  | s, c :: cs => (step s c).bind (run · cs)

/-- The article that a text says, if it says one. -/
def read? (html : String) : Option Article :=
  match run ⟨.slot .text, .start⟩ html.toList with
  | some ⟨.slot .text, .finished article⟩ => some article
  | _ => none

/-! ## Reading piece by piece -/

theorem run_append : ∀ (s : State) (cs ds : List Char),
    run s (cs ++ ds) = (run s cs).bind (run · ds)
  | _, [], _ => rfl
  | s, c :: cs, ds => by
      rw [List.cons_append, run, run]
      cases step s c with
      | none => rfl
      | some s' => exact run_append s' cs ds

/-- A piece that is read takes the reader to where the next piece begins. -/
theorem run_append_of_run {s s' : State} {cs : List Char} (h : run s cs = some s')
    (ds : List Char) : run s (cs ++ ds) = run s' ds := by
  rw [run_append, h, Option.bind_some]

/-- Names are read whole: no letter of a name ends it. -/
theorem run_tagName (tag : Tag) (site : Site) :
    run ⟨.tagStart, site⟩ tag.name.toList = some ⟨.openingName tag.name.toList, site⟩ := by
  cases tag <;> rfl

theorem run_attributeName (name : AttributeName) (head : Head) (site : Site) :
    run ⟨.attributeName head [], site⟩ (name.name.toList ++ "=\"".toList)
      = some ⟨.slot (.value head name []), site⟩ := by
  cases name <;> rfl

theorem run_closingTag (tag : Tag) (site : Site) :
    run ⟨.slot .text, site⟩ (closingTag tag).toList
      = (site.closeTag tag.name.toList).map (⟨.slot .text, ·⟩) := by
  cases tag <;> simp [closingTag, Tag.name, run, step]

theorem tag?_name (tag : Tag) : tag? tag.name.toList = some tag := by
  cases tag <;> rfl

/-- A character that begins nothing stands for itself. -/
theorem step_slot (slot : Slot) (site : Site) {c : Char} (hamp : c ≠ '&') (hlt : c ≠ '<')
    (hquot : c ≠ '"') : step ⟨.slot slot, site⟩ c = put slot site c := by
  cases slot with
  | text => simp only [step, if_neg hamp, if_neg hlt]
  | value => simp only [step, if_neg hamp, if_neg hquot]

/-- An encoded character is taken in as the one character it stands for, whichever that is and
wherever it stands. -/
theorem run_encodeChar (slot : Slot) (site : Site) (c : Char) :
    run ⟨.slot slot, site⟩ (Entity.encodeChar c) = put slot site c := by
  unfold Entity.encodeChar
  split
  · simp [run, step, Entity.readEntity?]
  · simp [run, step, Entity.readEntity?]
  · simp [run, step, Entity.readEntity?]
  · simp [run, step, Entity.readEntity?]
  · simp [run, step, Entity.readEntity?]
  · rename_i hamp hlt _ hquot _
    simp [run, step_slot slot site hamp hlt hquot]

theorem run_encodedText (paragraphs : List Paragraph) (opened : List OpenElement) :
    ∀ (cs : List Char) (nodes : List Node),
      run ⟨.slot .text, .paragraph paragraphs opened nodes⟩ (Entity.encodeChars cs)
        = some ⟨.slot .text, .paragraph paragraphs opened (cs.foldl addChar nodes)⟩
  | [], _ => rfl
  | c :: cs, nodes => by
      have hc : run ⟨.slot .text, .paragraph paragraphs opened nodes⟩ (Entity.encodeChar c)
          = some ⟨.slot .text, .paragraph paragraphs opened (addChar nodes c)⟩ :=
        run_encodeChar ..
      rw [Entity.encodeChars, List.flatMap_cons, run_append_of_run hc, List.foldl_cons]
      exact run_encodedText paragraphs opened cs (addChar nodes c)

theorem run_encodedValue (head : Head) (name : AttributeName) (site : Site) :
    ∀ cs value : List Char,
      run ⟨.slot (.value head name value), site⟩ (Entity.encodeChars cs)
        = some ⟨.slot (.value head name (value ++ cs)), site⟩
  | [], value => by rw [List.append_nil]; rfl
  | c :: cs, value => by
      have hc : run ⟨.slot (.value head name value), site⟩ (Entity.encodeChar c)
          = some ⟨.slot (.value head name (value ++ [c])), site⟩ :=
        run_encodeChar ..
      rw [Entity.encodeChars, List.flatMap_cons, run_append_of_run hc, ← Entity.encodeChars,
        run_encodedValue head name site cs, List.append_assoc, List.singleton_append]

theorem toList_escaped (text : String) :
    (escaped text).toList = Entity.encodeChars text.toList := by
  simp [escaped, Entity.push]

/-- An attribute, read from anywhere its blank may stand. The encoded value cannot hold the quote
that ends it. -/
theorem run_attribute {s : State} {head : Head} {site : Site}
    (hblank : step s ' ' = some ⟨.attributeName head [], site⟩) (a : Attribute) :
    run s a.toHtml.toList = some ⟨.afterValue ⟨head.name, head.attributes ++ [a]⟩, site⟩ := by
  have hsplit : a.toHtml.toList
      = ' ' :: ((a.name.name.toList ++ "=\"".toList)
          ++ (Entity.encodeChars a.value.toList ++ ['"'])) := by
    simp [Attribute.toHtml, toList_escaped]
  rw [hsplit, run, hblank, Option.bind_some, run_append_of_run (run_attributeName a.name head site),
    run_append_of_run (run_encodedValue head a.name site a.value.toList [])]
  simp [run, step]

/-- The rest of an opening tag, read from anywhere an attribute may follow. -/
theorem run_attributes {site : Site} : ∀ (attributes : List Attribute) {s : State} {head : Head},
    step s ' ' = some ⟨.attributeName head [], site⟩ → step s '>' = openHead head site →
      run s (attributes.flatMap (·.toHtml.toList) ++ ['>'])
        = openHead ⟨head.name, head.attributes ++ attributes⟩ site
  | [], s, head, _, hend => by
      rw [List.flatMap_nil, List.nil_append, run, hend, List.append_nil]
      cases openHead head site <;> rfl
  | a :: attributes, s, head, hblank, _ => by
      rw [List.flatMap_cons, List.append_assoc, run_append_of_run (run_attribute hblank a),
        run_attributes attributes rfl rfl, List.append_assoc, List.singleton_append]

theorem run_openingTag (tag : Tag) (attributes : List Attribute) (site : Site) :
    run ⟨.slot .text, site⟩ (openingTag tag attributes).toList
      = openHead ⟨tag.name.toList, attributes⟩ site := by
  have hsplit : (openingTag tag attributes).toList
      = '<' :: (tag.name.toList ++ (attributes.flatMap (·.toHtml.toList) ++ ['>'])) := by
    simp [openingTag, List.flatMap_map]
  rw [hsplit, run]
  show run ⟨.tagStart, site⟩ _ = _
  rw [run_append_of_run (run_tagName tag site), run_attributes attributes rfl rfl]
  rfl

end Daybook.Markup.HtmlReader
