import ClusterReads.Logging.Directive
import ClusterReads.Text.Pieces

/-!
# Log filters

A filter holds the rules of its directives, the most specific first. The first rule that concerns a site
decides from which level on its events are written; what no rule concerns is not written.
-/
namespace ClusterReads

/-- A place in a program that asks whether events are written, or writes one. -/
structure LogSite where
  target : String
  isEvent : Bool
  fields : List String
  deriving DecidableEq, Repr

structure LogRule where
  target : Option String
  fields : List String
  /-- The least level that is written; without one nothing is. -/
  least : Option LogLevel
  deriving DecidableEq, Repr

namespace LogRule

/-- A rule is about the sites whose targets begin with its own, and about the events with its fields. -/
def concerns (r : LogRule) (site : LogSite) : Bool :=
  (r.target.all fun t => t.toList.isPrefixOf site.target.toList) &&
    (!site.isEvent || r.fields.all site.fields.contains)

/-- By the length of the target, then by the number of fields, then by the names. -/
def specificity (r s : LogRule) : Ordering :=
  (compare (r.target.map String.utf8ByteSize) (s.target.map String.utf8ByteSize)).then
    ((compare r.fields.length s.fields.length).then
      ((compare r.target s.target).then (compare r.fields s.fields)))

end LogRule

/-- Rules, the most specific first. -/
abbrev LogFilter :=
  List LogRule

namespace LogFilter

/-- Adds a rule; one about the same sites gives place. -/
def add (r : LogRule) : LogFilter → LogFilter
  | [] => [r]
  | s :: rest =>
    match r.specificity s with
    | .eq => r :: rest
    | .gt => r :: s :: rest
    | .lt => s :: add r rest

/-- The least level that is written at a site. -/
def least (f : LogFilter) (site : LogSite) : Option LogLevel :=
  (f.find? fun r => r.concerns site).bind LogRule.least

def writes (f : LogFilter) (site : LogSite) (l : LogLevel) : Bool :=
  (f.least site).any fun least => l.ctorIdx ≤ least.ctorIdx

/-- The levels that are written at a site, from the gravest. -/
def levels (f : LogFilter) (site : LogSite) : List LogLevel :=
  LogLevel.all.filter (f.writes site)

end LogFilter

/-- The rule of a directive that can be judged without spans and values. -/
def LogDirective.rule? (d : LogDirective) : Option LogRule :=
  if d.isStatic then some ⟨d.target, d.fields.map FieldTest.name, d.least⟩ else none

namespace LogFilter

/-- With no directives at all the gravest events are written. -/
def ofDirectives (ds : List LogDirective) : LogFilter :=
  if ds.isEmpty then [⟨none, [], some .error⟩]
  else (ds.filterMap LogDirective.rule?).foldl (fun f r => f.add r) []

/-- The parts of a text between commas, without empty ones. -/
def parts (s : String) : List (List Char) :=
  (Text.pieces ',' s.toList).filter (· ≠ [])

/-- The filter of a text whose directives are all well formed. -/
def strict? (s : String) : Option LogFilter :=
  ((parts s).mapM LogDirective.parse?).map ofDirectives

/-- The filter of a text without the directives that are not well formed. -/
def lenient (s : String) : LogFilter :=
  ofDirectives ((parts s).filterMap LogDirective.parse?)

example : (lenient "warn").levels ⟨"a", false, []⟩ = [.error, .warn] := by decide +kernel
example : (lenient "a=debug").levels ⟨"b", false, []⟩ = [] := by decide +kernel
example : (lenient "").levels ⟨"a", false, []⟩ = [.error] := by decide +kernel

end LogFilter

end ClusterReads
