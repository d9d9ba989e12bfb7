import YamlDialects.Text.Lines
import YamlDialects.Text.Offset

set_option autoImplicit false

namespace YamlDialects

inductive ProblemKind where
  | syntaxError
  | unknownProperty
  | missingRequired
  | mutuallyExclusive
  | deprecated
  | invalidValue
  | typeMismatch
  | duplicateKey
deriving DecidableEq, Inhabited

inductive Severity where
  | error
  | warning
  | info
  | hint
  | ignore
deriving DecidableEq, Inhabited

namespace ProblemKind

def all : List ProblemKind :=
  [.syntaxError, .unknownProperty, .missingRequired, .mutuallyExclusive, .deprecated, .invalidValue,
    .typeMismatch, .duplicateKey]

def code : ProblemKind → String
  | .syntaxError => "syntax-error"
  | .unknownProperty => "unknown-property"
  | .missingRequired => "missing-required"
  | .mutuallyExclusive => "mutually-exclusive"
  | .deprecated => "deprecated"
  | .invalidValue => "invalid-value"
  | .typeMismatch => "type-mismatch"
  | .duplicateKey => "duplicate-key"

def ofCode? (code : String) : Option ProblemKind :=
  all.find? (·.code == code)

def defaultSeverity : ProblemKind → Severity
  | .deprecated => .warning
  | _ => .error

end ProblemKind

namespace Severity

def all : List Severity :=
  [.error, .warning, .info, .hint, .ignore]

def name : Severity → String
  | .error => "error"
  | .warning => "warning"
  | .info => "info"
  | .hint => "hint"
  | .ignore => "ignore"

def ofName? (name : String) : Option Severity :=
  all.find? (·.name == name)

def level? : Severity → Option Nat
  | .error => some 1
  | .warning => some 2
  | .info => some 3
  | .hint => some 4
  | .ignore => none

end Severity

structure Problem where
  kind : ProblemKind
  severity : Severity
  region : Region
  message : String
  replacement : Option String
deriving DecidableEq, Inhabited

namespace Problem

def of (kind : ProblemKind) (region : Region) (message : String)
    (replacement : Option String := none) : Problem :=
  ⟨kind, kind.defaultSeverity, region, message, replacement⟩

end Problem

/-- Severities that differ from the default; the first entry of a kind counts. -/
abbrev Severities := List (ProblemKind × Severity)

namespace Problem

def withSeverities (severities : Severities) (problem : Problem) : Problem :=
  match severities.find? (·.1 == problem.kind) with
  | some (_, severity) => { problem with severity := severity }
  | none => problem

def report (severities : Severities) (problems : List Problem) : List Problem :=
  let judged := (problems.map (withSeverities severities)).filter fun problem => problem.severity != .ignore
  judged.mergeSort fun first second => first.region.start ≤ second.region.start

end Problem

structure Diagnostic where
  first : Position
  last : Position
  level : Nat
  kind : ProblemKind
  message : String
  replacement : Option String

namespace Diagnostic

def source : String :=
  "yaml-assist-lsp"

def ofProblem? (text : String) (index : LineIndex) (problem : Problem) : Option Diagnostic :=
  problem.severity.level?.map fun level =>
    ⟨index.positionOf text problem.region.start, index.positionOf text problem.region.stop, level,
      problem.kind, problem.message, problem.replacement⟩

def ofProblems (text : String) (problems : List Problem) : List Diagnostic :=
  problems.filterMap (ofProblem? text (LineIndex.ofText text))

end Diagnostic
end YamlDialects
