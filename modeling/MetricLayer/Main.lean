import MetricLayer.Program.Launch
import MetricLayer.Value.JsonText

/-!
# Command line

`http` and `tools` name the two servers. The program writes how the one that is named is
launched with the settings of its environment.
-/
namespace MetricLayer.Main

open Program

/-- The variables of the process. -/
def environment : IO (List (String × String)) := do
  let text ← IO.FS.readFile "/proc/self/environ"
  return (text.splitOn "\x00").filterMap fun entry =>
    match entry.toList.span (· != '=') with
    | (name, _ :: value) => some (String.ofList name, String.ofList value)
    | _ => none

/-- The text of a file, if it can be read. -/
def fileText? (path : String) : IO (Option String) :=
  try return some (← IO.FS.readFile path) catch _ => return none

/-- The surroundings of the process. Of its files only the catalog of the settings is read. -/
def surroundings : IO Surroundings := do
  let environment ← environment
  let catalog : Option String := do
    given? (← (settings { environment }).toOption).catalogPath
  match catalog with
  | none => return { environment }
  | some path =>
    let text ← fileText? path
    return { environment, file := fun p => if p == path then text else none }

end MetricLayer.Main

open MetricLayer in
/-- Writes the launch of a server. -/
def main (args : List String) : IO UInt32 := do
  match args with
  | ["http"] => report Program.launchHttp
  | ["tools"] => report Program.launchTools
  | _ =>
    IO.eprintln "One argument is expected: http or tools"
    return 2
where
  report (launch : Program.Surroundings → Except Fault Program.Launch) : IO UInt32 := do
    match launch (← Main.surroundings) with
    | .ok l =>
      IO.println (Json.write l.record)
      return 0
    | .error f =>
      IO.eprintln f.message
      return 1
