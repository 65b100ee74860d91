/-!
# Rendered content

A node is raw text or an element from a closed vocabulary of tags, so nothing that a feed holds
can become markup. A paragraph is one rendered line of a view; an article is all that a view makes
of one event.
-/

namespace Daybook.Markup

/-- The elements that a view can produce; `a` is made by the link pass alone. -/
inductive Tag where
  | span | strong | em | i | b | time | abbr | a
deriving DecidableEq, Repr

/-- The name under which a tag is written. -/
def Tag.name : Tag → String
  | .span => "span"
  | .strong => "strong"
  | .em => "em"
  | .i => "i"
  | .b => "b"
  | .time => "time"
  | .abbr => "abbr"
  | .a => "a"

/-- The attributes that an element can carry. -/
inductive AttributeName where
  | className | datetime | href | id | title
deriving DecidableEq, Repr

/-- The name under which an attribute is written. -/
def AttributeName.name : AttributeName → String
  | .className => "class"
  | .datetime => "datetime"
  | .href => "href"
  | .id => "id"
  | .title => "title"

/-- An attribute with its raw value. -/
structure Attribute where
  name : AttributeName
  value : String
deriving DecidableEq, Repr

/-- Raw text, or an element with its attributes in order and its children. -/
inductive Node where
  | text (value : String)
  | element (tag : Tag) (attributes : List Attribute) (children : List Node)
deriving Repr, Inhabited

namespace Node

/-- The empty text. -/
def empty : Node :=
  .text ""

/-- Whether a node is a text without any character. -/
def isEmptyText : Node → Bool
  | .text value => value.isEmpty
  | .element .. => false

mutual

/-- The texts below a node, in document order. -/
def texts : Node → List String
  | .text value => [value]
  | .element _ _ children => textsList children

/-- The texts below a list of nodes, in document order. -/
def textsList : List Node → List String
  | [] => []
  | node :: nodes => node.texts ++ textsList nodes

end

/-- All text below a node, joined. -/
def textContent (node : Node) : String :=
  String.join node.texts

/-- The value of the first attribute of an element that has the name `name`. -/
def attribute? (node : Node) (name : AttributeName) : Option String :=
  match node with
  | .text _ => none
  | .element _ attributes _ => (attributes.find? (·.name == name)).map (·.value)

end Node

/-- One rendered line of a view. -/
structure Paragraph where
  nodes : List Node
deriving Repr

namespace Paragraph

/-- The paragraph of the given nodes without the empty texts among them. -/
def ofNodes (nodes : List Node) : Paragraph :=
  ⟨nodes.filter (fun node => !node.isEmptyText)⟩

/-- A paragraph with one more node, unless that is an empty text. -/
def push (p : Paragraph) (node : Node) : Paragraph :=
  if node.isEmptyText then p else ⟨p.nodes ++ [node]⟩

/-- All text of a paragraph, joined. -/
def textContent (p : Paragraph) : String :=
  String.join (Node.textsList p.nodes)

end Paragraph

/-- What a view makes of one event. -/
structure Article where
  paragraphs : List Paragraph
deriving Repr

end Daybook.Markup
