import Daybook.Json.Value
import Daybook.NameMap
import Daybook.Script.Variable

/-!
# View definitions

What a view says, before its patterns are compiled and its tokens read.
-/

namespace Daybook.View

/-- A view as it is written down. Replacers are lists of a pattern literal and a template each;
shaders are pattern literals; the article has a list of tokens for every line. -/
structure Definition where
  title : Option String
  bindings : NameMap Script.Variable
  replacers : NameMap (List (String × String))
  shaders : NameMap String
  article : List (List Json.Value)
deriving BEq

namespace Definition

/-- The view that says nothing. -/
def blank : Definition :=
  ⟨none, .empty, .empty, .empty, []⟩

/-- The title of a view that has none. -/
def defaultTitle : String :=
  "Timetable View"

/-- The title under which a view is shown; an empty one counts as none. -/
def shownTitle (d : Definition) : String :=
  (d.title.filter (fun title => !title.isEmpty)).getD defaultTitle

end Definition

end Daybook.View
