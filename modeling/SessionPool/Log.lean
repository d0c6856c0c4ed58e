import SessionPool.Table
import SessionPool.Text.Blank

/-!
# Log records

What the pool and its sessions report: a level, a message, and fields in the order of their names.
-/

set_option autoImplicit false

namespace SessionPool

/-- How serious a record is, from the least to the most. -/
inductive Level
  | trace
  | debug
  | info
  | warn
  | error
deriving DecidableEq, Repr

namespace Level

def name : Level → String
  | trace => "TRACE"
  | debug => "DEBUG"
  | info => "INFO"
  | warn => "WARN"
  | error => "ERROR"

/-- The place of a level in their order. -/
def rank : Level → Nat
  | trace => 0
  | debug => 1
  | info => 2
  | warn => 3
  | error => 4

end Level

structure LogRecord where
  level : Level
  message : String
  /-- Names and texts, in the order of the names. -/
  fields : List (String × String)
deriving DecidableEq, Repr

namespace LogRecord

/-- A record with the given fields in any order; of two with one name the later counts. -/
def of (level : Level) (message : String) (fields : List (String × String)) : LogRecord :=
  { level, message, fields := fields.foldl (fun t f => Table.putSorted t f.1 f.2) [] }

def field? (r : LogRecord) (name : String) : Option String := Table.get? r.fields name

/-- Whether a text occurs in the message or in the text of a field. -/
def contains (r : LogRecord) (needle : String) : Bool :=
  Text.occursIn needle.toList r.message.toList ||
    r.fields.any fun f => Text.occursIn needle.toList f.2.toList

/-- Level, message and fields in one line. -/
def text (r : LogRecord) : String :=
  r.level.name ++ " " ++ r.message ++ String.join (r.fields.map fun f => " " ++ f.1 ++ "=" ++ f.2)

end LogRecord

/-- A log: its records, the latest last. -/
abbrev Log := List LogRecord

namespace Log

def atLevel (l : Log) (level : Level) : Log := l.filter fun r => r.level = level

def atLeast (l : Log) (level : Level) : Log := l.filter fun r => level.rank ≤ r.level.rank

def hasMessage (l : Log) (message : String) : Bool := l.any fun r => r.message == message

end Log

end SessionPool
