import Daybook.Files.Disk
import Daybook.Percent

/-!
# Settings

Where the calendar feed comes from, and where views are kept.
-/

namespace Daybook

/-- Settings: the address of the feed, the view to use, the template for fetching feeds, and the
folder of the views. -/
structure Settings where
  feedAddress : Option String
  viewId : Option String
  fetchTemplate : String
  viewsFolder : String
deriving DecidableEq, Repr

namespace Settings

/-- The template for fetching feeds if nothing else is said. -/
def standardTemplate : String :=
  "https://api.allorigins.win/raw?url=%s"

/-- The settings if nothing else is said. -/
def standard : Settings :=
  ⟨none, none, standardTemplate, "views"⟩

/-- A text with its first `%s` replaced. -/
def fillTemplate (content : List Char) : List Char → List Char
  | [] => []
  | '%' :: 's' :: cs => content ++ cs
  | c :: cs => c :: fillTemplate content cs

/-- The URL from which the feed is fetched, if there is one: its address is put into the template,
percent-encoded. -/
def feedUrl? (s : Settings) : Option String :=
  s.feedAddress.map (fun address =>
    String.ofList (fillTemplate (Percent.encode address).toList s.fetchTemplate.toList))

/-- The path of a view. -/
def viewPath (s : Settings) (id : String) : String :=
  Files.joinPath s.viewsFolder (id ++ ".json")

/-- The path of the stylesheet of a view. -/
def stylesheetPath (s : Settings) (id : String) : String :=
  Files.joinPath s.viewsFolder (id ++ ".css")

end Settings

end Daybook
