import SynonymLookup.Json.Record

/-! What is logged and where to. -/

namespace SynonymLookup
namespace Startup

inductive LogLevel where
  | trace | debug | info | warn | error
deriving DecidableEq, Repr, Inhabited

namespace LogLevel

def all : List LogLevel := [trace, debug, info, warn, error]

def text : LogLevel → String
  | trace => "trace"
  | debug => "debug"
  | info => "info"
  | warn => "warn"
  | error => "error"

/-- Reads a level in any case; case differs in the letters of ASCII only. -/
def ofText? (s : String) : Option LogLevel := all.find? (·.text == s.toLower)

def unknown (s : String) : String := "unknown log level '" ++ s ++ "'"

/-- Written values are in lower case. -/
def ofJson? (j : Json) : Option LogLevel := j.constant?.bind fun s => all.find? (·.text == s)

def toJson (l : LogLevel) : Json := .string l.text

instance : JsonForm LogLevel := ⟨ofJson?, toJson⟩

@[simp] theorem ofJson?_toJson (l : LogLevel) : ofJson? l.toJson = some l := by cases l <;> rfl

end LogLevel

inductive LogFormat where
  | compact | full | pretty
deriving DecidableEq, Repr, Inhabited

namespace LogFormat

def all : List LogFormat := [compact, full, pretty]

def text : LogFormat → String
  | compact => "compact"
  | full => "full"
  | pretty => "pretty"

def ofJson? (j : Json) : Option LogFormat := j.constant?.bind fun s => all.find? (·.text == s)

def toJson (f : LogFormat) : Json := .string f.text

@[simp] theorem ofJson?_toJson (f : LogFormat) : ofJson? f.toJson = some f := by cases f <;> rfl

end LogFormat

inductive LogOutput where
  | stdout | stderr | file
deriving DecidableEq, Repr, Inhabited

namespace LogOutput

def all : List LogOutput := [stdout, stderr, file]

def text : LogOutput → String
  | stdout => "stdout"
  | stderr => "stderr"
  | file => "file"

def ofJson? (j : Json) : Option LogOutput := j.constant?.bind fun s => all.find? (·.text == s)

def toJson (o : LogOutput) : Json := .string o.text

@[simp] theorem ofJson?_toJson (o : LogOutput) : ofJson? o.toJson = some o := by cases o <;> rfl

end LogOutput

/-- The events of a span's life that are logged. -/
structure SpanEvents where
  new : Bool := false
  enter : Bool := false
  exit : Bool := false
  close : Bool := false
deriving DecidableEq, Repr, Inhabited

namespace SpanEvents

def none : SpanEvents := {}

/-- The beginning and the end only. -/
def lifecycle : SpanEvents := { new := true, close := true }

def full : SpanEvents := ⟨true, true, true, true⟩

def ofJson? (j : Json) : Option SpanEvents := do
  let r ← j.record? ["new", "enter", "exit", "close"]
  return {
    new := ← r.withDefault "new" Json.bool? false
    enter := ← r.withDefault "enter" Json.bool? false
    exit := ← r.withDefault "exit" Json.bool? false
    close := ← r.withDefault "close" Json.bool? false }

def toJson (e : SpanEvents) : Json := Json.ofFields [
  ("new", .bool e.new), ("enter", .bool e.enter), ("exit", .bool e.exit),
  ("close", .bool e.close)]

instance : JsonForm SpanEvents := ⟨ofJson?, toJson⟩

end SpanEvents

structure Logging where
  level : LogLevel := .info
  format : LogFormat := .compact
  output : LogOutput := .stdout
  /-- Needed for output to a file. -/
  filePath : Option String := none
  spanEvents : SpanEvents := {}
  threadIds : Bool := false
  /-- Source file and line are logged. -/
  fileLocation : Bool := false
  /-- Levels of single modules. -/
  filters : KeyMap LogLevel := .empty
deriving DecidableEq, Inhabited

namespace Logging

def fieldNames : List String := ["level", "format", "output", "file_path", "span_events",
  "thread_ids", "file_location", "filters"]

def ofJson? (j : Json) : Option Logging := do
  let r ← j.record? fieldNames
  return {
    level := ← r.withDefault "level" LogLevel.ofJson? .info
    format := ← r.withDefault "format" LogFormat.ofJson? .compact
    output := ← r.withDefault "output" LogOutput.ofJson? .stdout
    filePath := ← r.optional "file_path" Json.string?
    spanEvents := ← r.withDefault "span_events" SpanEvents.ofJson? {}
    threadIds := ← r.withDefault "thread_ids" Json.bool? false
    fileLocation := ← r.withDefault "file_location" Json.bool? false
    filters := ← r.withDefault "filters" (Json.map? LogLevel.ofJson?) .empty }

def toJson (l : Logging) : Json := Json.ofFields [
  ("level", l.level.toJson),
  ("format", l.format.toJson),
  ("output", l.output.toJson),
  ("file_path", Json.ofOption .string l.filePath),
  ("span_events", l.spanEvents.toJson),
  ("thread_ids", .bool l.threadIds),
  ("file_location", .bool l.fileLocation),
  ("filters", Json.ofMap LogLevel.toJson l.filters)]

instance : JsonForm Logging := ⟨ofJson?, toJson⟩

end Logging

end Startup
end SynonymLookup
