import ScreenBridge.Log.Notice
import ScreenBridge.Text.Case

/-!
# What reaches the output

Output is configured with the name of a level, a format and a service, and the last configuration
counts. An event is written if its level matters enough, and it is stamped with the service unless
it names one itself. What the server says about single requests is kept to warnings.
-/

namespace ScreenBridge.Log

def levelNumbers : Keyed Int :=
  [("CRITICAL", 50), ("FATAL", 50), ("ERROR", 40), ("WARNING", 30), ("WARN", 30), ("INFO", 20),
    ("DEBUG", 10), ("NOTSET", 0)]

/-- The number of a level that is named in any case; an unknown name means `INFO`. -/
def levelNumber (name : String) : Int :=
  (levelNumbers.get? (Text.upper name)).getD Level.info.number

/-- The service that events are stamped with unless told otherwise. -/
def defaultService : String := "flutterexpo-bridge"

/-- What writes events: an object a line, or a line for the console. -/
inductive Handler where
  | json
  | console
  deriving DecidableEq, Repr, Inhabited

/-- What the output is set to. Each of the handlers writes every event that is shown; the least
level of what the server says about single requests is set apart. -/
structure Output where
  threshold : Int
  handlers : List Handler
  accessThreshold : Int
  service : String
  deriving DecidableEq, Repr, Inhabited

namespace Output

/-- The output before it is configured. -/
def initial : Output :=
  ⟨Level.warning.number, [], levelNumber "NOTSET", defaultService⟩

/-- The output set to a level, a format and a service; one handler takes the place of those that
were there. -/
def configure (level : String) (json : Bool) (service : String) (o : Output) : Output :=
  { o with
    threshold := levelNumber level
    handlers := [if json then .json else .console]
    accessThreshold := max (levelNumber level) Level.warning.number
    service }

/-- The last configuration counts, and there is one handler however often there was one. -/
theorem configure_configure (level level' : String) (json json' : Bool)
    (service service' : String) (o : Output) :
    (o.configure level json service).configure level' json' service' =
      o.configure level' json' service' := rfl

/-- Whether an event of a level is written. -/
def shows (o : Output) (level : Level) : Bool :=
  o.threshold ≤ level.number

/-- The handlers that write an event of a level. -/
def writers (o : Output) (level : Level) : List Handler :=
  if o.shows level then o.handlers else []

/-- Keys with a service, unless they have one. -/
def stamp (service : String) (keys : Keys) : Keys :=
  keys.setNew "service" (.str service)

/-- The keys of an event as they are written in JSON, with those that are bound. -/
def line (o : Output) (logger : String) (bound : Keys) (level : Level) (event : String)
    (keys : Keys) : Keys :=
  (stamp o.service (bound.update (keys.set "event" (.str event)))).update
    [("logger", .str logger), ("level", .str level.word)]

end Output

end ScreenBridge.Log
