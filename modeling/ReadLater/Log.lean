import ReadLater.Json.Value
import ReadLater.Text.Case
import ReadLater.Text.Quote
import ReadLater.Text.Space

/-!
# Log records

The service writes structured log records: a level, a message and named attributes. A log has a
threshold level; records below it are dropped. The threshold is configured by name, in any case
and with blanks around it: `debug`, `info` (also the empty name), `warn` or `warning`, `error`.
-/

namespace ReadLater

/-- The severity of a log record. -/
inductive LogLevel where
  | debug
  | info
  | warn
  | error
  deriving DecidableEq, Repr, Inhabited

namespace LogLevel

/-- The level's rank: a record is kept when its rank is at least the threshold's. -/
def rank : LogLevel → Nat
  | .debug => 0
  | .info => 1
  | .warn => 2
  | .error => 3

/-- The level as records show it. -/
def name : LogLevel → String
  | .debug => "DEBUG"
  | .info => "INFO"
  | .warn => "WARN"
  | .error => "ERROR"

/-- The threshold of a configured name, or the message that rejects it. -/
def parse (s : String) : Except String LogLevel :=
  match Text.toLower (Text.trim s) with
  | "debug" => .ok .debug
  | "" | "info" => .ok .info
  | "warn" | "warning" => .ok .warn
  | "error" => .ok .error
  | _ => .error ("unknown log level " ++ Text.quote s)

end LogLevel

/-- One structured record. -/
structure LogRecord where
  level : LogLevel
  message : String
  attrs : List (String × Json) := []
  deriving Repr, Inhabited

/-- The record as a JSON object: level, message, then the attributes in order. -/
def LogRecord.toJson (r : LogRecord) : Json :=
  .obj ([("level", .str r.level.name), ("msg", .str r.message)] ++ r.attrs)

end ReadLater
