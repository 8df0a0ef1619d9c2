import ClusterReads.Config.Model
import ClusterReads.Logging.Filter

/-!
# Log output

Log events are written in one format, from the levels on that a filter text says. Output is started once
for a program.
-/
namespace ClusterReads

structure LogOutput where
  filter : LogFilter
  format : LogFormat
  deriving DecidableEq, Repr

/-- The output of a format could not be started. -/
structure LogOutputError where
  format : LogFormat
  deriving DecidableEq, Repr

def LogOutputError.message (e : LogOutputError) : String :=
  match e.format with
  | .json => "初始化JSON日志格式失败"
  | .pretty => "初始化Pretty日志格式失败"

namespace LogOutput

/-- Starts the output unless it is running already. A well formed text of the environment stands in for
the level. -/
def start (environment : Option String) (level : String) (format : LogFormat) :
    Option LogOutput → Except LogOutputError Unit × Option LogOutput
  | some running => (.error ⟨format⟩, some running)
  | none => (.ok (), some ⟨(environment.bind LogFilter.strict?).getD (.lenient level), format⟩)

/-- The levels that are written at a site. -/
def levels (site : LogSite) : Option LogOutput → List LogLevel
  | none => []
  | some output => output.filter.levels site

/-- The format in which the grave events of a site come out, if they do. -/
def format? (site : LogSite) : Option LogOutput → Option LogFormat
  | none => none
  | some output => if output.filter.writes site .error then some output.format else none

end LogOutput

end ClusterReads
