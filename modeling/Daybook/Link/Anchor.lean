import Daybook.Link.Host
import Daybook.Markup.Node

/-!
# Links in rendered text

The first URL of every text becomes a link that shows the URL's host. A URL begins with `http://`
or `https://`, has at least one more character and runs to the next space or to the end. Text that
stands inside a link stays as it is.
-/

namespace Daybook.Link

open Daybook.Markup

/-- What follows `http://` or `https://` at the front of a text. -/
def afterHttp? : List Char → Option (List Char)
  | 'h' :: 't' :: 't' :: 'p' :: ':' :: '/' :: '/' :: rest => some rest
  | 'h' :: 't' :: 't' :: 'p' :: 's' :: ':' :: '/' :: '/' :: rest => some rest
  | _ => none

/-- Whether a URL begins at the front of a text. -/
def startsUrl (cs : List Char) : Bool :=
  match afterHttp? cs with
  | some (c :: _) => c != ' '
  | _ => false

/-- A text in three parts: what is before its first URL, that URL, and what is behind it. -/
structure Split where
  front : List Char
  url : List Char
  back : List Char
deriving DecidableEq, Repr

/-- Looks for the first URL, with the characters already passed in reverse. -/
def splitFrom? (passed : List Char) : List Char → Option Split
  | [] => none
  | c :: cs =>
    if startsUrl (c :: cs) then
      some ⟨passed.reverse, (c :: cs).takeWhile (· != ' '), (c :: cs).dropWhile (· != ' ')⟩
    else
      splitFrom? (c :: passed) cs

/-- A text split around its first URL. -/
def split? (cs : List Char) : Option Split :=
  splitFrom? [] cs

/-- A text as a node, or nothing for an empty text. -/
def textNodes (cs : List Char) : List Node :=
  if cs.isEmpty then [] else [.text (String.ofList cs)]

/-- A link to a URL that shows its host. -/
def anchor (url : List Char) (host : String) : Node :=
  .element .a [⟨.href, String.ofList url⟩] [.text host]

/-- A text with its first URL linked; a URL without a host leaves the text as it is. -/
def linkText (text : String) : List Node :=
  match split? text.toList with
  | none => [.text text]
  | some split =>
    match host? (String.ofList split.url) with
    | none => [.text text]
    | some host => textNodes split.front ++ anchor split.url host :: textNodes split.back

mutual

/-- What a node becomes: a text gives up to three nodes, an element keeps its place. -/
def linkNode : Node → List Node
  | .text value => linkText value
  | .element .a attributes children => [.element .a attributes children]
  | .element tag attributes children => [.element tag attributes (linkNodes children)]

/-- What a list of nodes becomes. -/
def linkNodes : List Node → List Node
  | [] => []
  | node :: nodes => linkNode node ++ linkNodes nodes

end

/-- A paragraph with the first URL of every text linked. -/
def linkUrls (p : Paragraph) : Paragraph :=
  ⟨linkNodes p.nodes⟩

end Daybook.Link
