import SchemaGate.Text.CodePoint

/-!
Log records. A record has a level, the part of the library that tells it, and a text.
-/

namespace SchemaGate

/-- How important a record is. -/
inductive Level where
  | debug
  | info
  | warning
  | error
  deriving DecidableEq

namespace Level

/-- Levels are compared by their rank; a threshold may lie between or beyond them. -/
def rank : Level → Nat
  | .debug => 10
  | .info => 20
  | .warning => 30
  | .error => 40

def name : Level → String
  | .debug => "DEBUG"
  | .info => "INFO"
  | .warning => "WARNING"
  | .error => "ERROR"

end Level

/-- The parts of the library that log. -/
inductive Topic where
  | detection
  | handler
  | markup
  | resolver
  | resources
  | document
  | reader
  | settings
  | commandLine
  deriving DecidableEq

/-- The name under which a part logs. -/
def Topic.name : Topic → String
  | .detection => "beanxml_core.validation.detector"
  | .handler => "beanxml_core.validation.base"
  | .markup => "beanxml_core.xml.utils"
  | .resolver => "beanxml_core.resolution.schema_resolver"
  | .resources => "beanxml_core.resolution.resource_loader"
  | .document => "beanxml_core.loading.lxml_loader"
  | .reader => "beanxml_core.loading.reader"
  | .settings => "beanxml_core.config.settings"
  | .commandLine => "beanxml_core"

/-- A log record. -/
structure Record where
  level : Level
  topic : Topic
  text : Text

/-- The records at or above a threshold. -/
def Record.passing (threshold : Nat) (records : List Record) : List Record :=
  records.filter fun r => threshold ≤ r.level.rank

end SchemaGate
