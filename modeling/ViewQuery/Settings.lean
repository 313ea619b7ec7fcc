import ViewQuery.View
import ViewQuery.Yaml.Reader

set_option autoImplicit false

namespace ViewQuery

open Yaml (Reader)
open Yaml.Read

inductive LogFormat where
  | pretty
  | json
  | compact
  deriving DecidableEq

def LogFormat.ofText (s : String) : LogFormat :=
  if s = "json" then .json else if s = "compact" then .compact else .pretty

inductive LogOutput where
  | stdout
  | file
  | both
  deriving DecidableEq

def LogOutput.ofText (s : String) : LogOutput :=
  if s = "file" then .file else if s = "both" then .both else .stdout

structure LogSettings where
  level : String
  format : String
  output : String
  directory : String
  deriving DecidableEq

namespace LogSettings

def default : LogSettings := ⟨"info", "pretty", "stdout", "./logs"⟩

def shape : Shape Reader LogSettings where
  name := "LoggingConfig"
  fields :=
    [ (Field.of "level" string fun l x => { l with level := x }).orDefault,
      (Field.of "format" string fun l x => { l with format := x }).orDefault,
      (Field.of "output" string fun l x => { l with output := x }).orDefault,
      (Field.of "directory" string fun l x => { l with directory := x }).orDefault ]
  default := default

end LogSettings

structure ModelSettings where
  model : String
  temperature : Decimal.Binary
  attempts : Nat
  deriving DecidableEq

namespace ModelSettings

def default : ModelSettings := ⟨"gpt-4o-mini", .finite false 0, 3⟩

def shape : Shape Reader ModelSettings where
  name := "LlmConfig"
  fields :=
    [ (Field.of "model" string fun m x => { m with model := x }).orDefault,
      (Field.of "temperature" single fun m x => { m with temperature := x }).orDefault,
      (Field.of "max_attempts" (word64 "usize") fun m x => { m with attempts := x }).orDefault ]
  default := default

end ModelSettings

structure CatalogSource where
  resolver : String
  table : String
  column : String
  deriving DecidableEq

def CatalogSource.shape : Shape Reader CatalogSource where
  name := "CatalogConfig"
  fields :=
    [ .of "resolver" string fun c x => { c with resolver := x },
      .of "table" string fun c x => { c with table := x },
      .of "column" string fun c x => { c with column := x } ]
  default := ⟨"", "", ""⟩

structure EvaluationSettings where
  -- examples that are scored at a time
  concurrency : Nat
  -- for one resolution
  timeLimit : Nat
  resolves : Bool
  database : Option String
  catalogs : List CatalogSource
  deriving DecidableEq

namespace EvaluationSettings

def default : EvaluationSettings := ⟨8, 10000, false, none, []⟩

def shape : Shape Reader EvaluationSettings where
  name := "EvaluationConfig"
  fields :=
    [ (Field.of "concurrency" (word64 "usize") fun e x => { e with concurrency := x }).orDefault,
      (Field.of "similarity_timeout_ms" (word64 "u64") fun e x =>
        { e with timeLimit := x }).orDefault,
      (Field.of "resolve_similarity" bool fun e x => { e with resolves := x }).orDefault,
      (Field.of "database" (optional string) fun e x => { e with database := x }).orDefault,
      (Field.of "catalogs" (list (record CatalogSource.shape)) fun e x =>
        { e with catalogs := x }).orDefault ]
  default := default

end EvaluationSettings

structure Settings where
  logging : LogSettings
  model : ModelSettings
  evaluation : EvaluationSettings
  views : List Declaration
  deriving DecidableEq

namespace Settings

def default : Settings := ⟨.default, .default, .default, []⟩

def declarations : Reader (List Declaration) := list (record (Declaration.shape Reader))

def shape : Shape Reader Settings where
  name := "Config"
  fields :=
    [ (Field.of "logging" (record LogSettings.shape) fun s x => { s with logging := x }).orDefault,
      (Field.of "llm" (record ModelSettings.shape) fun s x => { s with model := x }).orDefault,
      (Field.of "evaluation" (record EvaluationSettings.shape) fun s x =>
        { s with evaluation := x }).orDefault,
      (Field.of "views" declarations fun s x => { s with views := x }).orDefault ]
  default := default

def read (source : String) : Except Yaml.Error Settings := text (record shape) source

def readViews (source : String) : Except Yaml.Error (List Declaration) := text declarations source

variable (lookup : String → Option String)

def overrideLogging (l : LogSettings) : LogSettings where
  level := (lookup "RUST_LOG").getD l.level
  format := (lookup "LOG_FORMAT").getD l.format
  output := (lookup "LOG_OUTPUT").getD l.output
  directory := (lookup "LOG_DIR").getD l.directory

def wordOr (name : String) (n : Nat) : Nat :=
  ((lookup name).bind fun s => Decimal.word64? s.toList).getD n

def override (s : Settings) : Settings where
  logging := overrideLogging lookup s.logging
  model := { s.model with model := (lookup "IQL_LLM_MODEL").getD s.model.model }
  evaluation :=
    { s.evaluation with
      timeLimit := wordOr lookup "IQL_SIMILARITY_TIMEOUT_MS" s.evaluation.timeLimit
      concurrency := wordOr lookup "IQL_EVAL_CONCURRENCY" s.evaluation.concurrency }
  views := s.views

end Settings

end ViewQuery
