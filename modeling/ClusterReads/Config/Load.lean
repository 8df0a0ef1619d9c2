import ClusterReads.Config.Check
import ClusterReads.Config.Files
import ClusterReads.Config.Loose
import ClusterReads.Config.Source

/-!
# Loading a configuration

A configuration comes from a file and from the environment, and the environment wins. A given path has to
exist; without one the usual places are tried, and no file at all is no error.
-/
namespace ClusterReads

/-- The files and the variables of the environment that a program finds. -/
structure Surroundings where
  files : FileTree
  environment : SortedMap String String

/-- Where a configuration is looked for if no path is given. -/
def defaultPaths : List String :=
  ["config/scheduler.toml", "scheduler.toml"]

/-- The path of the configuration file. A given path has to exist. -/
def FileTree.configPath (tree : FileTree) : Option String → Except SetupError (Option String)
  | none => .ok (defaultPaths.find? fun path => (tree.at? path).isSome)
  | some path => if (tree.at? path).isSome then .ok (some path) else .error (.missingFile path)

/-- A text without the byte order mark in front of it. -/
def withoutMark (s : String) : String :=
  match s.toList with
  | '\uFEFF' :: cs => String.ofList cs
  | _ => s

/-- What the file at a path says. A byte order mark in front of its text is passed over. -/
def FileTree.source (tree : FileTree) : Option String → Except SetupError Source
  | none => .ok []
  | some path =>
    match (tree.content? path).bind fun content => Source.ofText? (withoutMark content) with
    | some source => .ok source
    | none => .error .unbuildable

/-- The configuration found in the surroundings, checked. -/
def AppConfig.load (path : Option String) (around : Surroundings) : Except SetupError AppConfig := do
  let file ← around.files.source (← around.files.configPath path)
  let tree := Source.tree [file, .ofEnvironment around.environment]
  match read .loose tree with
  | none => .error .misshapen
  | some c =>
    c.check
    return c

end ClusterReads
