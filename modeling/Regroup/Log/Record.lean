/-!
# Log records

A record has a level, the name of the part of the daemon that emits it, and a message. Functions
that log return their records in the order in which they are emitted; writing them somewhere is
left to the daemon.
-/

namespace Regroup.Log

inductive Level where
  | error
  | warn
  | info
  | debug
  | trace
deriving DecidableEq

namespace Level

/-- Zero is kept for a filter that passes nothing. -/
def rank : Level → Nat
  | error => 1
  | warn => 2
  | info => 3
  | debug => 4
  | trace => 5

def name : Level → String
  | error => "ERROR"
  | warn => "WARN"
  | info => "INFO"
  | debug => "DEBUG"
  | trace => "TRACE"

/-- The name with blanks up to the width of the longest. -/
def column (level : Level) : String :=
  level.name ++ "".pushn ' ' (5 - level.name.length)

end Level

/-- The parts of the daemon that log. -/
inductive Target where
  | daemon
  | config
  | controller
  | dispatch
  | pipeline
  | background
  | report
  | rules
  | engine
  | channel
  | decoder
deriving DecidableEq

def Target.name : Target → String
  | daemon => "cgrulesd::cgred"
  | config => "cgrulesd::cgred::config"
  | controller => "cgrulesd::cgred::controller"
  | dispatch => "cgrulesd::cgred::dispatch"
  | pipeline => "cgrulesd::cgred::pipeline"
  | background => "cgrulesd::cgred::background"
  | report => "cgrulesd::cli"
  | rules => "cgroup_rules::rules"
  | engine => "cgroup_rules::engine"
  | channel => "proc_connector::channel"
  | decoder => "proc_connector::decoder"

structure Record where
  level : Level
  target : Target
  message : String
deriving DecidableEq

namespace Record

/-- The level and the message, as lists of records are shown. -/
def text (record : Record) : String :=
  s!"{record.level.name} {record.message}"

/-- The line that is written to the log. Further lines of the message are indented. -/
def line (record : Record) : String :=
  s!"[{record.level.column} {record.target.name}] " ++
    "\n    ".intercalate (record.message.splitOn "\n") ++ "\n"

end Record

end Regroup.Log
