import MetricLayer.Program.Start

/-!
# Launching

How the two servers are launched from their settings. Settings are checked first, then the log
level; the tool server opens its store before it is launched, the HTTP server when it starts.
-/
namespace MetricLayer.Program

/-- How a server is run. -/
inductive Launch where
  /-- The HTTP service at an address. -/
  | http (host : String) (port : Int) (logLevel : String)
  /-- The tools over standard input and output. -/
  | pipedTools
  /-- The tools over a network transport at an address. -/
  | servedTools (transport host : String) (port : Int) (logLevel : String)
  deriving DecidableEq, Repr

/-- A launch as a record. -/
def Launch.record : Launch → Value
  | http host port level =>
    .record [("server", .str "http"), ("host", .str host), ("port", .int port),
      ("log_level", .str level)]
  | pipedTools => .record [("server", .str "tools"), ("transport", .str "stdio")]
  | servedTools transport host port level =>
    .record [("server", .str "tools"), ("transport", .str transport), ("host", .str host),
      ("port", .int port), ("log_level", .str level)]

/-- The levels of the log. -/
def logLevels : List String :=
  ["CRITICAL", "FATAL", "ERROR", "WARN", "WARNING", "INFO", "DEBUG", "NOTSET"]

/-- The settings of the environment, with a known log level in any letter case. -/
def settings (outside : Surroundings) : Except Fault Settings := do
  let s ← (Settings.check [] outside.environment).orFault
  let level := Text.upper s.logLevel
  if logLevels.contains level then return s
  else throw (.badValue ("Unknown level: " ++ quotedText level))

/-- Launches the HTTP service. -/
def launchHttp (outside : Surroundings) : Except Fault Launch := do
  let s ← settings outside
  return .http s.apiHost s.effectivePort (Text.lower s.logLevel)

/-- Launches the tools. -/
def launchTools (outside : Surroundings) : Except Fault Launch := do
  let s ← settings outside
  let _ ← openStore outside s
  if s.toolTransport == "stdio" then return .pipedTools
  else return .servedTools s.toolTransport s.toolHost s.toolPort (Text.lower s.logLevel)

end MetricLayer.Program
