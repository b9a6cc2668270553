import Sluice.Value.Basic

/-!
# Events

What an observer sees of the gate: records in the log, and requests to the outside world in the
order in which they are made.
-/

namespace Sluice

inductive Level where
  | debug
  | info
  | warning
  | error
  | critical
  deriving DecidableEq, Repr

def Level.name : Level → String
  | debug => "DEBUG"
  | info => "INFO"
  | warning => "WARNING"
  | error => "ERROR"
  | critical => "CRITICAL"

/-- The parts of the gate that keep a log. -/
inductive Logger where
  | sanitizer
  | binary
  | proxy
  | proxyOutput
  | proxyErrors
  | pool
  | context
  | tools
  | server
  | http
  deriving DecidableEq, Repr

def Logger.name : Logger → String
  | sanitizer => "QUERY_SANITIZER"
  | binary => "BINARY_MANAGER"
  | proxy => "CLOUD_SQL_PROXY"
  | proxyOutput => "CLOUD_SQL_PROXY:stdout"
  | proxyErrors => "CLOUD_SQL_PROXY:stderr"
  | pool => "DB_MANAGER"
  | context => "APP_CONTEXT"
  | tools => "TOOLS"
  | server => "MCP_SERVER"
  | http => "MCP_HTTP"

inductive Event where
  | log (level : Level) (logger : Logger) (message : String)
  /-- A client for downloads is made, with a time limit unless it is the caller's. -/
  | client (timeout : Option Value)
  | request (url : String)
  | spawn (command : List String)
  | terminate
  | kill
  | exit (code : Int)
  /-- A connection to a local port is tried, at a time in microseconds. -/
  | connect (host : String) (port : Int) (time : Int)
  | createPool (options : List (String × Value))
  | ping
  | query (sql : String) (params : Option (List Value))
  | closePool
  | awaitPool
  deriving BEq, Repr

end Sluice
