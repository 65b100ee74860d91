import Daybook.Settings.Basic
import Daybook.Toml.Reader
import Daybook.Toml.Text

/-!
# Settings as text

Settings are kept in a TOML document with a text for each of them. What a document does not say
takes its standard value; what else it says does not matter.
-/

namespace Daybook

open Daybook.Files Daybook.Toml

/-- Why settings could not be had, or not be kept. -/
inductive SettingsFault where
  | notFound (path : String)
  | malformed
  | inaccessible
deriving DecidableEq, Repr

/-- The wording of a fault. -/
def SettingsFault.message : SettingsFault → String
  | .notFound path => "config file not found at " ++ path
  | .malformed => "failed to parse config"
  | .inaccessible => "io error"

namespace Settings

/-- The text under a name of a document, if there is one; nothing but a text may stand there. -/
def textAt? (marks : Marks) (name : String) : Option (Option String) :=
  match marks.get? [name] with
  | none => some none
  | some (.value (.text text)) => some (some text)
  | some _ => none

/-- The settings that a text holds. -/
def parse? (text : String) : Option Settings := do
  let marks ← Toml.parse? text
  let feedAddress ← textAt? marks "ical_href"
  let viewId ← textAt? marks "view_id"
  let fetchTemplate ← textAt? marks "cors_url"
  let viewsFolder ← textAt? marks "views_dir"
  return ⟨feedAddress, viewId, fetchTemplate.getD standard.fetchTemplate,
    viewsFolder.getD standard.viewsFolder⟩

/-- The line of a setting that may be missing. -/
def optionalLine (name : String) : Option String → String
  | none => ""
  | some text => bindingLine name text

/-- Settings written down. -/
def toText (s : Settings) : String :=
  optionalLine "ical_href" s.feedAddress ++ optionalLine "view_id" s.viewId ++
    bindingLine "cors_url" s.fetchTemplate ++ bindingLine "views_dir" s.viewsFolder

/-- Reads settings from a file. -/
def load [Monad m] (disk : Disk m) (path : String) : m (Except SettingsFault Settings) := do
  match ← disk.read path with
  | .error .missing => return .error (.notFound path)
  | .error .unreadable => return .error .inaccessible
  | .ok text =>
    match parse? text with
    | none => return .error .malformed
    | some s => return .ok s

/-- Writes settings into a file. -/
def save [Monad m] (disk : Disk m) (path : String) (s : Settings) :
    m (Except SettingsFault Unit) := do
  if ← disk.write path s.toText then return .ok () else return .error .inaccessible

end Settings

end Daybook
