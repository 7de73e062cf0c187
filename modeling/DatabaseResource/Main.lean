import DatabaseResource.Config.EnvFile
import DatabaseResource.Service

/-!
# The program

Serves the invocations on standard input, one event document a line, where no host can be reached:
it prints what is logged on the way and how each invocation ends. The environment is the program's
own, completed by a file `.env`.
-/

namespace DatabaseResource.Main

/-- The variables of this process and of a file `.env`. -/
def environment : IO Environment := do
  let block ← IO.FS.readBinFile "/proc/self/environ"
  let env := Environment.ofBlock block.toList
  try return EnvFile.load (← IO.FS.readFile ".env") env
  catch _ => return env

/-- Why a file cannot be read. -/
def fileError : IO.Error → SystemError
  | .noFileOrDirectory _ code _ | .permissionDenied _ code _ | .inappropriateType _ code _
  | .resourceExhausted _ code _ => .number code.toNat
  | e => .text .other (toString e)

/-- The one file that is asked for. -/
def files : IO Files := do
  let script ←
    try pure (Except.ok (← IO.FS.readBinFile Bootstrapper.standardScript).toList)
    catch e => pure (Except.error (fileError e))
  return {
    content _ path := if path = Bootstrapper.standardScript then script else .error .noSuchFile
    latency _ _ := some 0 }

/-- A world without a network, whose wall clock begins at the epoch. -/
def world (files : Files) : World where
  outlet := ⟨.standard, .unreachable, fun _ => 0⟩
  server := .unreachable fun _ => .networkUnreachable
  files := files
  wall t := .after (.ofNanos t.nanos.toNat)

/-- Time enough for any invocation, in milliseconds since the epoch. -/
def deadlineMillis : Nat := 4102444800000

def answerLine (id : String) : Except InvocationError Unit → String
  | .ok () => s!"{id}: answered"
  | .error e => s!"{id}: {e.message}"

end DatabaseResource.Main

open DatabaseResource in
def main : IO Unit := do
  let lines ← (← IO.getStdin).lines
  let invocations := lines.toList.mapIdx fun k line =>
    (⟨s!"invocation-{k + 1}", Main.deadlineMillis, line⟩ : Invocation)
  let run := serve (← Main.environment) (Main.world (← Main.files)) invocations ⟨⟨0⟩, []⟩
  for (context, entry) in logged (eventsOf run.steps) do
    IO.println (entry.describe context)
  for (i, answer) in invocations.zip (run.result.getD []) do
    IO.println (Main.answerLine i.id answer)
