import Daybook.Markup.Node
import Daybook.Text.Entity

/-!
# HTML

Nodes, paragraphs and articles written as HTML. Raw text is encoded here, once, and nowhere else.
-/

namespace Daybook.Markup

open Daybook.Text

/-- A text as it stands between tags or quotes. -/
def escaped (text : String) : String :=
  Entity.push "" text

/-- An attribute as it stands in an opening tag, with the blank before it. -/
def Attribute.toHtml (a : Attribute) : String :=
  " " ++ a.name.name ++ "=\"" ++ escaped a.value ++ "\""

/-- The opening tag of an element. -/
def openingTag (tag : Tag) (attributes : List Attribute) : String :=
  "<" ++ tag.name ++ String.join (attributes.map Attribute.toHtml) ++ ">"

/-- The closing tag of an element. -/
def closingTag (tag : Tag) : String :=
  "</" ++ tag.name ++ ">"

namespace Node

mutual

/-- A node as HTML. -/
def toHtml : Node → String
  | .text value => escaped value
  | .element tag attributes children =>
    openingTag tag attributes ++ listToHtml children ++ closingTag tag

/-- Nodes as HTML, one after the other. -/
def listToHtml : List Node → String
  | [] => ""
  | node :: nodes => node.toHtml ++ listToHtml nodes

end

end Node

/-- A paragraph as HTML. -/
def Paragraph.toHtml (p : Paragraph) : String :=
  "<p>" ++ Node.listToHtml p.nodes ++ "</p>"

/-- An article as HTML. -/
def Article.toHtml (article : Article) : String :=
  "<article>" ++ String.join (article.paragraphs.map Paragraph.toHtml) ++ "</article>"

end Daybook.Markup
