import ScreenBridge.CountedIds
import ScreenBridge.Log.Output
import ScreenBridge.Server.Basic
import ScreenBridge.Settings.Sources

/-!
# The command line

The program takes its settings from the environment and serves one viewer over the standard
streams: each line that comes in is a frame, and each text for the viewer goes out on a line of
its own. The log goes to the error stream. The clock counts from the start of the system.
-/

namespace ScreenBridge

/-- The settings that the environment holds, under their names in capitals. -/
def readVariables : IO (Keyed String) :=
  Settings.names.filterMapM fun name => do
    let key := Text.upper (Settings.commonStart ++ name)
    return (← IO.getEnv key).map fun value => (key, value)

def readClock : IO Int := do
  return (← IO.monoNanosNow) / 1000

/-- What a server has to say written out, and the server without it. -/
def flush (o : Log.Output) (v : Server) : IO Server := do
  let out ← IO.getStdout
  let err ← IO.getStderr
  for r in v.state.log do
    for _ in o.writers r.level do
      err.putStrLn (Json.obj (o.line "bridge" [] r.level r.event r.keys)).encode
  for (_, t) in v.network.sent do
    match t with
    | .text text => out.putStrLn text
    | _ => pure ()
  out.flush
  return { v with state := { v.state with log := [] }, network := { v.network with sent := [] } }

/-- The frames that come in served until they end. -/
partial def serveFrames (o : Log.Output) (v : Server) : IO Server := do
  let line ← (← IO.getStdin).getLine
  if line.isEmpty then return v.leave 0
  let v := { v with state := { v.state with clock := ← readClock } }
  serveFrames o (← flush o (v.receive 0 (Text.Utf8.encode line)))

/-- Why there are no settings, line by line. -/
def loadErrorLines : Settings.LoadError → List String
  | .unreadable field source => [Settings.unreadableMessage field source]
  | .brokeOff cause => [cause.message]
  | .invalid issues => issues.map Schema.Issue.message

end ScreenBridge

open ScreenBridge in
/-- One viewer served with the settings of the environment. -/
def main : IO UInt32 := do
  match Settings.load [] (← readVariables) none with
  | .error e =>
    for line in loadErrorLines e do
      (← IO.getStderr).putStrLn line
    return 1
  | .ok s =>
    let o := Log.Output.initial.configure s.logLevel s.jsonLogs s.serviceName
    let v ← flush o (Server.launch s .empty (← readClock))
    let v ← serveFrames o (← flush o (v.connect "/"))
    let _ ← flush o v.shutDown
    return 0
