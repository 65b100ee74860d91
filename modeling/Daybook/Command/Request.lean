import Daybook.Calendar.Reader
import Daybook.Command.Help
import Daybook.Command.Switches
import Daybook.Policy

/-!
# Requests

What a command line asks for: to check a view, to render a day, to tell where the feed is fetched
from, or just to tell something about the program.
-/

namespace Daybook.Command

open Daybook.Calendar

/-- What to render: the files of the view and of the events, the day and the instant if they are
given, the file to write to if there is one, and the policy. -/
structure RenderRequest where
  view : String
  events : String
  day : Option Date
  now : Option Instant
  output : Option String
  policy : Policy
deriving DecidableEq, Repr

/-- What a command line asks for. -/
inductive Request where
  | check (view : String) (strict : Bool)
  | render (r : RenderRequest)
  | feedUrl (settings : String)
  | tell (text : String)
deriving DecidableEq, Repr

/-! ## Switches -/

/-- Whether a value can be the path of a file. -/
def isPath (value : String) : Bool :=
  !value.isEmpty

/-- The date that a value stands for. -/
def readDate? (value : String) : Option Date :=
  (Date.parse value).toOption

/-- The instant that a value stands for. -/
def readInstant? (value : String) : Option Instant :=
  (Instant.parse value).toOption

/-- The switch for more messages, which every command has. -/
def verbose : Switch :=
  ⟨"verbose", some 'v', none, true⟩

/-- The switches before the command. -/
def programBoard : Switchboard :=
  ⟨[verbose], 0, true⟩

/-- The switches of the command that checks a view. -/
def checkBoard : Switchboard :=
  ⟨[verbose, .flag "strict"], 1, false⟩

/-- The switches of the command that renders a day. -/
def renderBoard : Switchboard :=
  ⟨[verbose, .option "view" isPath, .option "events" isPath,
    .option "date" (fun value => (readDate? value).isSome),
    .option "now" (fun value => (readInstant? value).isSome),
    { Switch.option "output" isPath with letter := some 'o' },
    .flag "strict", .flag "no-links"], 0, false⟩

/-- The switches of the command that tells where the feed is fetched from. -/
def feedUrlBoard : Switchboard :=
  ⟨[verbose, .option "config" isPath], 0, false⟩

/-! ## Commands -/

/-- The file of the settings if no other is given. -/
def standardSettings : String :=
  "ttv.toml"

/-- The request to check a view. -/
def checkRequest (w : Words) : Except Detour Request :=
  match w.plain with
  | [view] => .ok (.check view (w.has "strict"))
  | _ => .error .misuse

/-- The request to render a day. -/
def renderRequest (w : Words) : Except Detour Request :=
  match w.value? "view", w.value? "events" with
  | some view, some events =>
    .ok (.render ⟨view, events, (w.value? "date").bind readDate?,
      (w.value? "now").bind readInstant?, w.value? "output",
      ⟨w.has "strict", !w.has "no-links"⟩⟩)
  | _, _ => .error .misuse

/-- The request for the address from which the feed is fetched. -/
def feedUrlRequest (w : Words) : Except Detour Request :=
  .ok (.feedUrl ((w.value? "config").getD standardSettings))

/-- A command: the words that it takes, and how they are made a request. -/
structure Form where
  board : Switchboard
  request : Words → Except Detour Request

/-- The command of a name. -/
def form? (name : String) : Option Form :=
  match name with
  | "check" => some ⟨checkBoard, checkRequest⟩
  | "render" => some ⟨renderBoard, renderRequest⟩
  | "feed-url" => some ⟨feedUrlBoard, feedUrlRequest⟩
  | _ => none

/-- The request for the help of a command. -/
def helpRequest (words : List String) : Except Detour Request :=
  match words with
  | [] => .ok (.tell programHelp)
  | [name] =>
    match commandHelp? name with
    | some text => .ok (.tell text)
    | none => .error .misuse
  | _ => .error .misuse

/-- Reads the words behind the name of a command. -/
def Form.read (f : Form) (name : String) (words : List String) : Except Detour Request :=
  match f.board.read (words.length + 1) .none words with
  | .ok (w, _) => f.request w
  | .error .help =>
    match commandHelp? name with
    | some text => .ok (.tell text)
    | none => .error .misuse
  | .error detour => .error detour

/-- The request that a command line makes. -/
def Request.ofWords (words : List String) : Except Detour Request :=
  match programBoard.read (words.length + 1) .none words with
  | .error .help => .ok (.tell programHelp)
  | .error .version => .ok (.tell versionText)
  | .error .misuse => .error .misuse
  | .ok (_, name :: rest) =>
    match form? name with
    | some f => f.read name rest
    | none => if name == "help" then helpRequest rest else .error .misuse
  | .ok (_, []) => .error .misuse

end Daybook.Command
