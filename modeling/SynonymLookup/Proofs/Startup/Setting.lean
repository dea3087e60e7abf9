import SynonymLookup.Proofs.Startup.Reads
import SynonymLookup.Startup.Options

/-! The single settings of the options: where each stands among written options, how it is read and
written, and its default. Together they make up the options. -/

namespace SynonymLookup

theorem WordingType.ofJson?_toJson (t : WordingType) : ofJson? t.toJson = some t := by
  cases t <;> rfl

namespace Startup

attribute [ext] SpanEvents Logging Server Options

/-- How values of a type are written and read. -/
structure Form (β : Type) where
  read : Json → Option β
  write : β → Json

namespace Form

/-- What is written is read, and is no object; at most a constant's name is read of an object. -/
structure Lawful {β : Type} (f : Form β) : Prop where
  read_write : ∀ b, f.read (f.write b) = some b
  not_table : ∀ b, (f.write b).isTable = false
  constant_of_table : ∀ {j b}, f.read j = some b → j.isTable = true →
    ∃ name, j = .object [(name, .null)]

def level : Form LogLevel := ⟨LogLevel.ofJson?, LogLevel.toJson⟩

def format : Form LogFormat := ⟨LogFormat.ofJson?, LogFormat.toJson⟩

def output : Form LogOutput := ⟨LogOutput.ofJson?, LogOutput.toJson⟩

def wordingType : Form WordingType := ⟨WordingType.ofJson?, WordingType.toJson⟩

def flag : Form Bool := ⟨Json.bool?, Json.bool⟩

def text : Form String := ⟨Json.string?, Json.string⟩

def file : Form (Option String) where
  read j := if j.isNull then some none else j.string?.map some
  write := Json.ofOption .string

def port : Form UInt16 := ⟨Server.port?, fun p => Json.ofNat p.toNat⟩

theorem table_of_constant? {j : Json} {s : String} (h : j.constant? = some s)
    (htable : j.isTable = true) : ∃ name, j = .object [(name, .null)] := by
  unfold Json.constant? at h
  split at h
  · cases htable
  · exact ⟨_, rfl⟩
  · cases h

theorem Lawful.of_constant {β : Type} {f : Form β} {named : String → Option β}
    (hread : ∀ j, f.read j = j.constant?.bind named) (hwrite : ∀ b, f.read (f.write b) = some b)
    (hscalar : ∀ b, (f.write b).isTable = false) : f.Lawful where
  read_write := hwrite
  not_table := hscalar
  constant_of_table {j b} h htable := by
    rw [hread, Option.bind_eq_some_iff] at h
    obtain ⟨s, hs, -⟩ := h
    exact table_of_constant? hs htable

theorem lawful_level : level.Lawful :=
  .of_constant (fun _ => rfl) LogLevel.ofJson?_toJson fun _ => rfl

theorem lawful_format : format.Lawful :=
  .of_constant (fun _ => rfl) LogFormat.ofJson?_toJson fun _ => rfl

theorem lawful_output : output.Lawful :=
  .of_constant (fun _ => rfl) LogOutput.ofJson?_toJson fun _ => rfl

theorem lawful_wordingType : wordingType.Lawful :=
  .of_constant (fun _ => rfl) WordingType.ofJson?_toJson fun _ => rfl

theorem lawful_flag : flag.Lawful where
  read_write _ := rfl
  not_table _ := rfl
  constant_of_table {j _} h htable := by cases j <;> simp_all [flag, Json.bool?, Json.isTable]

theorem lawful_text : text.Lawful where
  read_write _ := rfl
  not_table _ := rfl
  constant_of_table {j _} h htable := by cases j <;> simp_all [text, Json.string?, Json.isTable]

theorem lawful_file : file.Lawful where
  read_write b := by cases b <;> rfl
  not_table b := by cases b <;> rfl
  constant_of_table {j _} h htable := by
    cases j <;> simp_all [file, Json.isNull, Json.string?, Json.isTable]

theorem lawful_port : port.Lawful where
  read_write p := by
    have hp : p.toNat < Nat.pow 2 16 := p.toNat_lt
    simp [port, Server.port?, Json.ofNat, Json.natural?, Number.natural?, hp]
  not_table _ := rfl
  constant_of_table {j _} h htable := by
    cases j <;> simp_all [port, Server.port?, Json.natural?, Json.isTable]

end Form

structure Spec (β : Type) where
  form : Form β
  parts : List Part
  /-- None where the options have no such entry. -/
  get : Options → Option β
  default : Option β

namespace Spec

def sections : List String := ["logging", "server", "storage", "settings", "behaviors"]

def inLogging {β : Type} (form : Form β) (parts : List Part) (get : Logging → Option β)
    (default : Option β) : Spec β where
  form
  parts := .field sections "logging" :: parts
  get o := get o.logging
  default

def inServer {β : Type} (form : Form β) (name : String) (get : Server → β) (default : β) :
    Spec β where
  form
  parts := [.field sections "server", .field ["host", "port", "base_path"] name]
  get o := some (get o.server)
  default

def ofLogging {β : Type} (form : Form β) (name : String) (get : Logging → β) (default : β) :
    Spec β :=
  inLogging form [.field Logging.fieldNames name] (fun l => some (get l)) (some default)

def ofSpans (name : String) (get : SpanEvents → Bool) : Spec Bool :=
  inLogging .flag [.field Logging.fieldNames "span_events",
    .field ["new", "enter", "exit", "close"] name] (fun l => some (get l.spanEvents)) (some false)

end Spec

inductive Setting where
  | level | format | output | filePath
  | newSpans | enteredSpans | exitedSpans | closedSpans
  | threadIds | fileLocation
  | filter (module : String)
  | host | port | basePath
  | fixture
  | wordingType
  | defaultWording (behavior : String)
deriving DecidableEq, Repr

namespace Setting

abbrev Value : Setting → Type
  | level | filter _ => LogLevel
  | format => LogFormat
  | output => LogOutput
  | filePath | fixture => Option String
  | newSpans | enteredSpans | exitedSpans | closedSpans | threadIds | fileLocation => Bool
  | host | basePath | defaultWording _ => String
  | port => UInt16
  | wordingType => WordingType

def spec : (x : Setting) → Spec x.Value
  | level => .ofLogging .level "level" Logging.level .info
  | format => .ofLogging .format "format" Logging.format .compact
  | output => .ofLogging .output "output" Logging.output .stdout
  | filePath => .ofLogging .file "file_path" Logging.filePath none
  | newSpans => .ofSpans "new" SpanEvents.new
  | enteredSpans => .ofSpans "enter" SpanEvents.enter
  | exitedSpans => .ofSpans "exit" SpanEvents.exit
  | closedSpans => .ofSpans "close" SpanEvents.close
  | threadIds => .ofLogging .flag "thread_ids" Logging.threadIds false
  | fileLocation => .ofLogging .flag "file_location" Logging.fileLocation false
  | filter module => .inLogging .level [.field Logging.fieldNames "filters", .entry module]
      (fun l => l.filters.get? module) none
  | host => .inServer .text "host" Server.host "127.0.0.1"
  | port => .inServer .port "port" Server.port 8080
  | basePath => .inServer .text "base_path" Server.basePath "/synonyms"
  | fixture => ⟨.file, [.field Spec.sections "storage", .field ["fixture"] "fixture"],
      fun o => some o.fixture, some none⟩
  | wordingType => ⟨.wordingType, [.field Spec.sections "settings",
      .field ["wording_type"] "wording_type"], fun o => some o.wordingType, some .none⟩
  | defaultWording behavior => ⟨.text, [.field Spec.sections "behaviors", .entry behavior,
      .field ["default_wording"] "default_wording"],
      fun o => o.defaultWordings.get? behavior, some ""⟩

/-- The value of a setting; none where the options have no such entry. -/
def get (x : Setting) (o : Options) : Option x.Value := x.spec.get o

def path (x : Setting) : List String := x.spec.parts.map Part.name

/-- Options with the same settings are the same. -/
theorem eq_of_get_eq {o o' : Options} (h : ∀ x : Setting, x.get o = x.get o') : o = o' := by
  have hone (x : Setting) {b b' : x.Value} (hb : x.get o = some b) (hb' : x.get o' = some b') :
      b = b' := Option.some.inj (hb.symm.trans ((h x).trans hb'))
  have hspans : o.logging.spanEvents = o'.logging.spanEvents :=
    SpanEvents.ext (hone newSpans rfl rfl) (hone enteredSpans rfl rfl) (hone exitedSpans rfl rfl)
      (hone closedSpans rfl rfl)
  have hlogging : o.logging = o'.logging :=
    Logging.ext (hone level rfl rfl) (hone format rfl rfl) (hone output rfl rfl)
      (hone filePath rfl rfl) hspans (hone threadIds rfl rfl) (hone fileLocation rfl rfl)
      (KeyMap.ext_get? fun module => h (filter module))
  have hserver : o.server = o'.server :=
    Server.ext (hone host rfl rfl) (hone port rfl rfl) (hone basePath rfl rfl)
  exact Options.ext hlogging hserver (hone fixture rfl rfl) (hone wordingType rfl rfl)
    (KeyMap.ext_get? fun behavior => h (defaultWording behavior))

end Setting

namespace Spec

open Json (at?)

variable {β : Type}

structure Lawful (x : Spec β) : Prop where
  form : x.form.Lawful
  reads : Reads Options.ofJson? x.parts x.form.read x.get x.default
  written : ∀ o : Options, at? (x.parts.map Part.name) o.toJson = (x.get o).map x.form.write

theorem at?_ofFields (name : String) (rest : List String) (fields : List (String × Json)) :
    at? (name :: rest) (Json.ofFields fields) =
      (KeyMap.findEntry name fields.reverse).bind (at? rest) := by
  rw [Json.at?_cons]
  exact congrArg (Option.bind · (at? rest)) (KeyMap.get?_ofList name fields)

theorem at?_ofMap {α : Type} (name : String) (rest : List String) (write : α → Json)
    (m : KeyMap α) :
    at? (name :: rest) (Json.ofMap write m) = (m.get? name).bind fun a => at? rest (write a) := by
  rw [Json.at?_cons]
  have hfield : (Json.ofMap write m).field? name = (m.get? name).map write :=
    KeyMap.get?_map m write name
  rw [hfield]
  cases m.get? name <;> rfl

theorem of_logging {j : Json} {l : Logging} (h : Logging.ofJson? j = some l) :
    ∃ r, j.record? Logging.fieldNames = some r ∧
      r.withDefault "level" Form.level.read .info = some l.level ∧
      r.withDefault "format" Form.format.read .compact = some l.format ∧
      r.withDefault "output" Form.output.read .stdout = some l.output ∧
      r.withDefault "file_path" Form.file.read none = some l.filePath ∧
      r.withDefault "span_events" SpanEvents.ofJson? {} = some l.spanEvents ∧
      r.withDefault "thread_ids" Form.flag.read false = some l.threadIds ∧
      r.withDefault "file_location" Form.flag.read false = some l.fileLocation ∧
      r.withDefault "filters" (Json.map? Form.level.read) .empty = some l.filters := by
  simp only [Logging.ofJson?, Record.optional_eq, Option.bind_eq_bind, Option.bind_eq_some_iff,
    Option.pure_def, Option.some.injEq] at h
  obtain ⟨r, hr, level, hlevel, format, hformat, output, houtput, file, hfile, spans,
    hspans, threads, hthreads, location, hlocation, filters, hfilters, rfl⟩ := h
  exact ⟨r, hr, hlevel, hformat, houtput, hfile, hspans, hthreads, hlocation, hfilters⟩

theorem of_spans {j : Json} {e : SpanEvents} (h : SpanEvents.ofJson? j = some e) :
    ∃ r, j.record? ["new", "enter", "exit", "close"] = some r ∧
      r.withDefault "new" Form.flag.read false = some e.new ∧
      r.withDefault "enter" Form.flag.read false = some e.enter ∧
      r.withDefault "exit" Form.flag.read false = some e.exit ∧
      r.withDefault "close" Form.flag.read false = some e.close := by
  simp only [SpanEvents.ofJson?, Option.bind_eq_bind, Option.bind_eq_some_iff, Option.pure_def,
    Option.some.injEq] at h
  obtain ⟨r, hr, new, hnew, enter, henter, exit, hexit, close, hclose, rfl⟩ := h
  exact ⟨r, hr, hnew, henter, hexit, hclose⟩

theorem of_server {j : Json} {s : Server} (h : Server.ofJson? j = some s) :
    ∃ r, j.record? ["host", "port", "base_path"] = some r ∧
      r.withDefault "host" Form.text.read "127.0.0.1" = some s.host ∧
      r.withDefault "port" Form.port.read 8080 = some s.port ∧
      r.withDefault "base_path" Form.text.read "/synonyms" = some s.basePath := by
  simp only [Server.ofJson?, Option.bind_eq_bind, Option.bind_eq_some_iff, Option.pure_def,
    Option.some.injEq] at h
  obtain ⟨r, hr, host, hhost, port, hport, basePath, hbasePath, rfl⟩ := h
  exact ⟨r, hr, hhost, hport, hbasePath⟩

theorem of_options {j : Json} {o : Options} (h : Options.ofJson? j = some o) :
    ∃ r, j.record? sections = some r ∧
      r.withDefault "logging" Logging.ofJson? {} = some o.logging ∧
      r.withDefault "server" Server.ofJson? {} = some o.server ∧
      r.withDefault "storage" Options.storage? none = some o.fixture ∧
      r.withDefault "settings" Options.settings? .none = some o.wordingType ∧
      r.withDefault "behaviors" (Json.map? Options.behavior?) .empty = some o.defaultWordings := by
  simp only [Options.ofJson?, Option.bind_eq_bind, Option.bind_eq_some_iff, Option.pure_def,
    Option.some.injEq] at h
  obtain ⟨r, hr, logging, hlogging, server, hserver, storage, hstorage, settings,
    hsettings, behaviors, hbehaviors, rfl⟩ := h
  exact ⟨r, hr, hlogging, hserver, hstorage, hsettings, hbehaviors⟩

theorem of_one {α : Type} {name : String} {read : Json → Option α} {without a : α} {j : Json}
    (h : (do (← j.record? [name]).withDefault name read without) = some a) :
    ∃ r, j.record? [name] = some r ∧ r.withDefault name read without = some a :=
  Option.bind_eq_some_iff.1 h

theorem lawful_inLogging {form : Form β} {parts : List Part} {get : Logging → Option β}
    {default : Option β} (hform : form.Lawful)
    (hreads : Reads Logging.ofJson? parts form.read get default)
    (hwithout : ∀ b, get {} = some b → default = some b)
    (hwritten : ∀ l : Logging, at? (parts.map Part.name) l.toJson = (get l).map form.write) :
    (inLogging form parts get default).Lawful where
  form := hform
  reads := hreads.field (p := Options.logging) (fun h => by
    obtain ⟨r, hr, hlogging, -⟩ := of_options h
    exact ⟨r, hr, hlogging⟩) hwithout
  written o := by
    rw [inLogging, List.map_cons, Part.name, Options.toJson, Options.toJsonWith, at?_ofFields]
    exact hwritten o.logging

theorem lawful_ofLogging {form : Form β} {name : String} {get : Logging → β} {default : β}
    (hform : form.Lawful)
    (hfield : ∀ {j l}, Logging.ofJson? j = some l → ∃ r, j.record? Logging.fieldNames = some r ∧
      r.withDefault name form.read default = some (get l))
    (hwithout : get {} = default)
    (hwritten : ∀ l : Logging, at? [name] l.toJson = some (form.write (get l))) :
    (ofLogging form name get default).Lawful :=
  lawful_inLogging hform
    ((Reads.self form.read (some default)).field hfield fun _ hb => hb)
    (fun _ hb => by rw [← hwithout]; exact hb) hwritten

theorem lawful_ofSpans {name : String} {get : SpanEvents → Bool}
    (hfield : ∀ {j e}, SpanEvents.ofJson? j = some e →
      ∃ r, j.record? ["new", "enter", "exit", "close"] = some r ∧
        r.withDefault name Form.flag.read false = some (get e))
    (hwithout : get {} = false)
    (hwritten : ∀ e : SpanEvents, at? [name] e.toJson = some (.bool (get e))) :
    (ofSpans name get).Lawful := by
  have hspans : Reads SpanEvents.ofJson? [.field ["new", "enter", "exit", "close"] name]
      Form.flag.read
      (fun e => some (get e)) (some false) :=
    (Reads.self Form.flag.read (some false)).field hfield fun _ hb => hb
  refine lawful_inLogging Form.lawful_flag ?_ (fun _ hb => by rw [← hwithout]; exact hb) fun l => ?_
  · refine hspans.field (p := Logging.spanEvents)
      (fun h => ?_) fun _ hb => by rw [← hwithout]; exact hb
    obtain ⟨r, hr, -, -, -, -, hfound, -⟩ := of_logging h
    exact ⟨r, hr, hfound⟩
  · rw [List.map_cons, Part.name, Logging.toJson, at?_ofFields]
    exact hwritten l.spanEvents

theorem lawful_inServer {form : Form β} {name : String} {get : Server → β} {default : β}
    (hform : form.Lawful)
    (hfield : ∀ {j s}, Server.ofJson? j = some s →
      ∃ r, j.record? ["host", "port", "base_path"] = some r ∧
        r.withDefault name form.read default = some (get s))
    (hwithout : get {} = default)
    (hwritten : ∀ s : Server, at? [name] s.toJson = some (form.write (get s))) :
    (inServer form name get default).Lawful where
  form := hform
  reads := by
    have hserver : Reads Server.ofJson? [.field ["host", "port", "base_path"] name] form.read
        (fun s => some (get s)) (some default) :=
      (Reads.self form.read (some default)).field hfield fun _ hb => hb
    refine hserver.field (p := Options.server)
      (fun h => ?_) fun _ hb => by rw [← hwithout]; exact hb
    obtain ⟨r, hr, -, hfound, -⟩ := of_options h
    exact ⟨r, hr, hfound⟩
  written o := by
    rw [inServer, List.map_cons, Part.name, Options.toJson, Options.toJsonWith, at?_ofFields]
    exact hwritten o.server

theorem lawful_filter (module : String) : (Setting.filter module).spec.Lawful := by
  have hempty (b : LogLevel) (hb : (KeyMap.empty : KeyMap LogLevel).get? module = some b) :
      none = some b := by cases hb
  show (inLogging Form.level _ (fun l => l.filters.get? module) none).Lawful
  refine lawful_inLogging Form.lawful_level ?_ hempty fun l => ?_
  · have hentry : Reads (Json.map? Form.level.read) [.entry module] Form.level.read
        (fun m : KeyMap LogLevel => m.get? module) none := by
      simpa using (Reads.self Form.level.read none).entry module
    refine hentry.field (p := Logging.filters) (fun h => ?_) hempty
    obtain ⟨r, hr, -, -, -, -, -, -, -, hfound⟩ := of_logging h
    exact ⟨r, hr, hfound⟩
  · rw [List.map_cons, Part.name, Logging.toJson, at?_ofFields]
    refine (at?_ofMap module [] LogLevel.toJson l.filters).trans ?_
    show _ = (l.filters.get? module).map LogLevel.toJson
    cases l.filters.get? module <;> rfl

theorem lawful_fixture : Setting.fixture.spec.Lawful where
  form := Form.lawful_file
  reads := by
    have hstorage : Reads Options.storage? [.field ["fixture"] "fixture"] Form.file.read some
        (some none) := by
      refine (Reads.self Form.file.read (some none)).field (p := id)
        (fun {j c} h => ?_) fun _ hb => hb
      rw [Options.storage?] at h
      simp only [Record.optional_eq] at h
      exact of_one h
    refine hstorage.field (p := Options.fixture) (fun h => ?_) fun _ hb => hb
    obtain ⟨r, hr, -, -, hfound, -⟩ := of_options h
    exact ⟨r, hr, hfound⟩
  written o := by
    rw [Setting.spec, List.map_cons, Part.name, Options.toJson, Options.toJsonWith, at?_ofFields]
    exact at?_ofFields "fixture" [] [("fixture", Json.ofOption .string o.fixture)]

theorem lawful_wordingType : Setting.wordingType.spec.Lawful where
  form := Form.lawful_wordingType
  reads := by
    have hsettings : Reads Options.settings? [.field ["wording_type"] "wording_type"]
        Form.wordingType.read some (some .none) :=
      (Reads.self Form.wordingType.read (some .none)).field (p := id) of_one fun _ hb => hb
    refine hsettings.field (p := Options.wordingType) (fun h => ?_) fun _ hb => hb
    obtain ⟨r, hr, -, -, -, hfound, -⟩ := of_options h
    exact ⟨r, hr, hfound⟩
  written o := by
    rw [Setting.spec, List.map_cons, Part.name, Options.toJson, Options.toJsonWith, at?_ofFields]
    exact at?_ofFields "wording_type" [] [("wording_type", o.wordingType.toJson)]

theorem lawful_defaultWording (behavior : String) :
    (Setting.defaultWording behavior).spec.Lawful where
  form := Form.lawful_text
  reads := by
    have hbehavior : Reads Options.behavior? [.field ["default_wording"] "default_wording"]
        Form.text.read some (some "") :=
      (Reads.self Form.text.read (some "")).field (p := id) of_one fun _ hb => hb
    have hentry : Reads (Json.map? Options.behavior?) [.entry behavior,
        .field ["default_wording"] "default_wording"] Form.text.read
        (fun m : KeyMap String => m.get? behavior) (some "") := by
      simpa using hbehavior.entry behavior
    have hempty (b : String) (hb : (KeyMap.empty : KeyMap String).get? behavior = some b) :
        some "" = some b := by cases hb
    refine hentry.field (p := Options.defaultWordings) (fun h => ?_) hempty
    obtain ⟨r, hr, -, -, -, -, hfound⟩ := of_options h
    exact ⟨r, hr, hfound⟩
  written o := by
    rw [Setting.spec, List.map_cons, Part.name, Options.toJson, Options.toJsonWith, at?_ofFields]
    refine (at?_ofMap behavior ["default_wording"] _ o.defaultWordings).trans ?_
    show _ = (o.defaultWordings.get? behavior).map Json.string
    cases o.defaultWordings.get? behavior with
    | none => rfl
    | some w => exact at?_ofFields "default_wording" [] [("default_wording", .string w)]

end Spec

open Spec in
/-- Every setting is read where it stands, and all written options have it there. -/
theorem Setting.lawful (x : Setting) : x.spec.Lawful := by
  cases x with
  | level =>
    refine lawful_ofLogging Form.lawful_level (fun h => ?_) rfl fun l => at?_ofFields _ _ _
    obtain ⟨r, hr, hfound, -⟩ := of_logging h
    exact ⟨r, hr, hfound⟩
  | format =>
    refine lawful_ofLogging Form.lawful_format (fun h => ?_) rfl fun l => at?_ofFields _ _ _
    obtain ⟨r, hr, -, hfound, -⟩ := of_logging h
    exact ⟨r, hr, hfound⟩
  | output =>
    refine lawful_ofLogging Form.lawful_output (fun h => ?_) rfl fun l => at?_ofFields _ _ _
    obtain ⟨r, hr, -, -, hfound, -⟩ := of_logging h
    exact ⟨r, hr, hfound⟩
  | filePath =>
    refine lawful_ofLogging Form.lawful_file (fun h => ?_) rfl fun l => at?_ofFields _ _ _
    obtain ⟨r, hr, -, -, -, hfound, -⟩ := of_logging h
    exact ⟨r, hr, hfound⟩
  | newSpans =>
    refine lawful_ofSpans (fun h => ?_) rfl fun e => at?_ofFields _ _ _
    obtain ⟨r, hr, hfound, -⟩ := of_spans h
    exact ⟨r, hr, hfound⟩
  | enteredSpans =>
    refine lawful_ofSpans (fun h => ?_) rfl fun e => at?_ofFields _ _ _
    obtain ⟨r, hr, -, hfound, -⟩ := of_spans h
    exact ⟨r, hr, hfound⟩
  | exitedSpans =>
    refine lawful_ofSpans (fun h => ?_) rfl fun e => at?_ofFields _ _ _
    obtain ⟨r, hr, -, -, hfound, -⟩ := of_spans h
    exact ⟨r, hr, hfound⟩
  | closedSpans =>
    refine lawful_ofSpans (fun h => ?_) rfl fun e => at?_ofFields _ _ _
    obtain ⟨r, hr, -, -, -, hfound⟩ := of_spans h
    exact ⟨r, hr, hfound⟩
  | threadIds =>
    refine lawful_ofLogging Form.lawful_flag (fun h => ?_) rfl fun l => at?_ofFields _ _ _
    obtain ⟨r, hr, -, -, -, -, -, hfound, -⟩ := of_logging h
    exact ⟨r, hr, hfound⟩
  | fileLocation =>
    refine lawful_ofLogging Form.lawful_flag (fun h => ?_) rfl fun l => at?_ofFields _ _ _
    obtain ⟨r, hr, -, -, -, -, -, -, hfound, -⟩ := of_logging h
    exact ⟨r, hr, hfound⟩
  | filter module => exact lawful_filter module
  | host =>
    refine lawful_inServer Form.lawful_text (fun h => ?_) rfl fun s => at?_ofFields _ _ _
    obtain ⟨r, hr, hfound, -⟩ := of_server h
    exact ⟨r, hr, hfound⟩
  | port =>
    refine lawful_inServer Form.lawful_port (fun h => ?_) rfl fun s => at?_ofFields _ _ _
    obtain ⟨r, hr, -, hfound, -⟩ := of_server h
    exact ⟨r, hr, hfound⟩
  | basePath =>
    refine lawful_inServer Form.lawful_text (fun h => ?_) rfl fun s => at?_ofFields _ _ _
    obtain ⟨r, hr, -, -, hfound⟩ := of_server h
    exact ⟨r, hr, hfound⟩
  | fixture => exact lawful_fixture
  | wordingType => exact lawful_wordingType
  | defaultWording behavior => exact lawful_defaultWording behavior

end Startup
end SynonymLookup
