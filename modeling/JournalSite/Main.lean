import JournalSite.Host.Startup

/-!
# The command

Starts the host in the environment that the command is run in, tells the log on
standard output and ends with the code of the outcome. The settings file is the
first `.env` on the way from the working directory up to the root. The address is
not really taken: only the rule is kept by which a process without special rights
is refused one.
-/

namespace JournalSite.Command

/-- The bytes of a file, none if it cannot be read. -/
def bytesOf? (path : String) : IO (Option (List UInt8)) := do
  try
    return some (← IO.FS.readBinFile path).data.toList
  catch _ =>
    return none

/-- The directories on the way from a path up to the root. -/
def upward (path : String) : List String :=
  let pieces := path.splitOn "/"
  (List.range pieces.length).map fun up => "/".intercalate (pieces.take (pieces.length - up))

/-- The settings file that is nearest to a directory. -/
def nearestFile? (directory : String) : IO (Option FoundFile) := do
  for place in upward directory do
    if let some content ← bytesOf? (place ++ "/.env") then
      return some ⟨place ++ "/.env", content⟩
  return none

end JournalSite.Command

open JournalSite in
/-- Starts the host. -/
def main : IO UInt32 := do
  let block ← Command.bytesOf? "/proc/self/environ"
  let file ← Command.nearestFile? (← IO.currentDir).toString
  let startup := Startup.run ⟨file, "website", withoutRights⟩ (Environment.ofBlock (block.getD []))
  for line in startup.log do
    IO.println line
  return ((Startup.exitCode? startup).getD 0).toUInt32
