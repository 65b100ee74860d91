import Daybook.Command.Run
import Std.Time.Zoned

/-!
# The program

Runs a command line on the files and the clock of the computer.
-/

namespace Daybook

open Daybook.Calendar Daybook.Files

/-- The files of the computer. -/
def computerDisk : Disk IO where
  read path := do
    try
      return .ok (← IO.FS.readFile path)
    catch e =>
      match e with
      | .noFileOrDirectory .. => return .error .missing
      | _ => return .error .unreadable
  write path text := do
    try
      IO.FS.writeFile path text
      return true
    catch _ => return false
  makeFolders path := do
    try
      IO.FS.createDirAll path
      return true
    catch _ => return path.isEmpty

/-- The instant that the clock of the computer shows, in its own time zone. -/
def computerClock : IO Instant := do
  let now ← Std.Time.DateTime.now
  return ⟨⟨now.year.toInt, now.month.val.toNat, now.day.val.toNat⟩,
    ⟨now.hour.val.toNat, now.minute.val.toNat, now.second.val.toNat,
      now.nanosecond.val.toNat⟩, now.offset.second.val⟩

end Daybook

/-- Runs a command line; the exit code tells how it came out. -/
def main (args : List String) : IO UInt32 := do
  let outcome ← Daybook.Command.run Daybook.computerDisk Daybook.computerClock args
  IO.print outcome.output
  unless outcome.complaint.isEmpty do
    IO.eprintln outcome.complaint
  return outcome.status.code.toUInt32
