import Daybook.Calendar.EventList
import Daybook.Command.Request
import Daybook.Settings.Text
import Daybook.Timetable

/-!
# Running commands

A command reads the files it is told of, and then prints or writes what was asked for. Nothing is
printed or written before everything it needs has been read and found good.
-/

namespace Daybook.Command

open Daybook.Calendar Daybook.Files

/-- How a run came out. -/
inductive Status where
  | success
  | failure
  | misuse
deriving DecidableEq, Repr

/-- The exit code of a status. -/
def Status.code : Status → Nat
  | .success => 0
  | .failure => 1
  | .misuse => 2

/-- What a run leaves behind, files apart: its status, what it prints, and what it complains of. -/
structure Outcome where
  status : Status
  output : String
  complaint : String
deriving DecidableEq, Repr

namespace Outcome

/-- A run that printed something. -/
def printed (text : String) : Outcome :=
  ⟨.success, text, ""⟩

/-- A run that failed. -/
def failed (complaint : String) : Outcome :=
  ⟨.failure, "", complaint⟩

end Outcome

/-! ## Loading -/

/-- Reads a file and makes something of it, or says why not. -/
def loadFile [Monad m] (disk : Disk m) (path : String) (parse : String → Except Error α) :
    m (Except String α) := do
  match ← disk.read path with
  | .error _ => return .error ("read " ++ path)
  | .ok text =>
    match parse text with
    | .error e => return .error (path ++ ": " ++ e.message)
    | .ok value => return .ok value

/-- Loads a view. -/
def loadView [Monad m] (disk : Disk m) (policy : Policy) (path : String) :
    m (Except String View) :=
  loadFile disk path (View.parse policy .standard)

/-- Loads events. -/
def loadEvents [Monad m] (disk : Disk m) (path : String) : m (Except String (List Event)) :=
  loadFile disk path Event.parseList

/-! ## Commands -/

/-- The line that says that a view is good. -/
def checkLine (view : View) : String :=
  view.title ++ ": ok (" ++ Number.natText view.article.length ++ " lines, " ++
    Number.natText view.shaders.size ++ " shaders)\n"

/-- Checks a view. -/
def runCheck [Monad m] (disk : Disk m) (path : String) (strict : Bool) : m Outcome := do
  match ← loadView disk { Policy.standard with strictTokens := strict } path with
  | .error complaint => return .failed complaint
  | .ok view => return .printed (checkLine view)

/-- The fragment of HTML for a day. -/
def dayFragment (view : View) (events : List Event) (day : Date) (now : Instant) : String :=
  (((Timetable.make view events).renderDay day now).run .empty).1.toFragment

/-- Writes a text into a file, in a folder that is made if need be. -/
def writeFile [Monad m] (disk : Disk m) (path text : String) : m Bool := do
  let made ← match parentPath? path with
    | none => pure true
    | some parent => disk.makeFolders parent
  if made then disk.write path text else return false

/-- Renders a day. -/
def runRender [Monad m] (disk : Disk m) (clock : m Instant) (r : RenderRequest) : m Outcome := do
  match ← loadView disk r.policy r.view with
  | .error complaint => return .failed complaint
  | .ok view =>
    match ← loadEvents disk r.events with
    | .error complaint => return .failed complaint
    | .ok events =>
      let now ← match r.now with
        | some now => pure now
        | none => clock
      let fragment := dayFragment view events (r.day.getD now.date) now
      match r.output with
      | none => return .printed fragment
      | some path =>
        if ← writeFile disk path fragment then return .printed ""
        else return .failed ("write " ++ path)

/-- Prints the address from which the feed is fetched. -/
def runFeedUrl [Monad m] (disk : Disk m) (path : String) : m Outcome := do
  match ← Settings.load disk path with
  | .error fault => return .failed ("load " ++ path ++ ": " ++ fault.message)
  | .ok settings =>
    match settings.feedUrl? with
    | none => return .failed (path ++ " has no ical_href")
    | some url => return .printed (url ++ "\n")

/-- Does what a request asks for. -/
def runRequest [Monad m] (disk : Disk m) (clock : m Instant) : Request → m Outcome
  | .check view strict => runCheck disk view strict
  | .render r => runRender disk clock r
  | .feedUrl settings => runFeedUrl disk settings
  | .tell text => return .printed text

/-- Does what a command line asks for. -/
def run [Monad m] (disk : Disk m) (clock : m Instant) (words : List String) : m Outcome :=
  match Request.ofWords words with
  | .error _ => return ⟨.misuse, "", programHelp⟩
  | .ok request => runRequest disk clock request

end Daybook.Command
