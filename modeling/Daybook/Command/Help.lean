/-!
# Help

What the commands tell about themselves.
-/

namespace Daybook.Command

/-- A line of a list: what it is about, and what is to be said of it. -/
abbrev HelpLine : Type :=
  String × String

/-- A list under a title, in two columns. -/
def helpList (title : String) (lines : List HelpLine) : String :=
  let width := (lines.map (·.1.length)).foldl max 0
  let row (line : HelpLine) : String :=
    "  " ++ line.1 ++ String.ofList (List.replicate (width - line.1.length) ' ') ++ "  " ++
      line.2 ++ "\n"
  title ++ ":\n" ++ String.join (lines.map row)

/-- What is said of the switches of all commands. -/
def commonLines : List HelpLine :=
  [("-v, --verbose...", "Log more; repeat for trace output"), ("-h, --help", "Print help")]

/-- A help text: a purpose, a usage, and lists. -/
def helpPage (purpose usage : String) (lists : List String) : String :=
  purpose ++ "\n\nUsage: " ++ usage ++ "\n\n" ++ String.intercalate "\n" lists

/-- The purposes of the commands. -/
def commandLines : List HelpLine :=
  [("check", "Parse, validate and compile a view definition"),
    ("render", "Render one day of events through a view as an HTML fragment"),
    ("feed-url", "Print the proxied address the calendar feed is fetched from"),
    ("help", "Print this message or the help of the given subcommand(s)")]

/-- The help of the whole program. -/
def programHelp : String :=
  helpPage "Timetable View renderer" "ttv [OPTIONS] <COMMAND>"
    [helpList "Commands" commandLines,
      helpList "Options" (commonLines ++ [("-V, --version", "Print version")])]

/-- The help of a command. -/
def commandHelp? (name : String) : Option String :=
  let purpose := ((commandLines.find? (·.1 == name)).map (·.2)).getD ""
  match name with
  | "check" => some (helpPage purpose "ttv check [OPTIONS] <VIEW>"
      [helpList "Arguments" [("<VIEW>", "")],
        helpList "Options" (("    --strict", "") :: commonLines)])
  | "render" => some (helpPage purpose "ttv render [OPTIONS] --view <VIEW> --events <EVENTS>"
      [helpList "Options" ([("    --view <VIEW>", ""), ("    --events <EVENTS>", ""),
        ("    --date <DATE>",
          "Day to list, \x60YYYY-MM-DD\x60; defaults to the day of \x60--now\x60"),
        ("    --now <NOW>",
          "Instant used for event progress, RFC 3339; defaults to the current time"),
        ("-o, --output <OUTPUT>", ""), ("    --strict", ""),
        ("    --no-links", "Leave URLs in event text as plain text")] ++ commonLines)])
  | "feed-url" => some (helpPage purpose "ttv feed-url [OPTIONS]"
      [helpList "Options" (("    --config <CONFIG>", "[default: ttv.toml]") :: commonLines)])
  | "help" => some (helpPage purpose "ttv help [COMMAND]..."
      [helpList "Arguments" [("[COMMAND]...", "Print help for the subcommand(s)")]])
  | _ => none

/-- The name and the version of the program. -/
def versionText : String :=
  "timetable_view 0.1.0\n"

end Daybook.Command
