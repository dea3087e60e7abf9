import SynonymLookup.Startup.Error
import SynonymLookup.Startup.Logging
import SynonymLookup.Text.Blank
import SynonymLookup.Text.Pieces
import SynonymLookup.Wording.Template

/-! The options a service starts with, and the check that they can be used. -/

namespace SynonymLookup
namespace Startup

structure Server where
  host : String := "127.0.0.1"
  port : UInt16 := 8080
  /-- All lookups are served below this path. -/
  basePath : String := "/synonyms"
deriving DecidableEq, Repr, Inhabited

namespace Server

def address (s : Server) : String := s.host ++ ":" ++ toString s.port.toNat

def port? (j : Json) : Option UInt16 := do
  let n ← j.natural?
  if n < Nat.pow 2 16 then return UInt16.ofNat n else none

def ofJson? (j : Json) : Option Server := do
  let r ← j.record? ["host", "port", "base_path"]
  return {
    host := ← r.withDefault "host" Json.string? "127.0.0.1"
    port := ← r.withDefault "port" port? 8080
    basePath := ← r.withDefault "base_path" Json.string? "/synonyms" }

def toJson (s : Server) : Json := Json.ofFields [
  ("host", .string s.host), ("port", Json.ofNat s.port.toNat), ("base_path", .string s.basePath)]

end Server

structure Options where
  logging : Logging := {}
  server : Server := {}
  /-- The file of the dataset to start with. -/
  fixture : Option String := none
  wordingType : WordingType := .none
  /-- The default wordings of behaviors. -/
  defaultWordings : KeyMap String := .empty
deriving DecidableEq, Inhabited

namespace Options

def storage? (j : Json) : Option (Option String) := do
  (← j.record? ["fixture"]).optional "fixture" Json.string?

def settings? (j : Json) : Option WordingType := do
  (← j.record? ["wording_type"]).withDefault "wording_type" WordingType.ofJson? .none

def behavior? (j : Json) : Option String := do
  (← j.record? ["default_wording"]).withDefault "default_wording" Json.string? ""

def ofJson? (j : Json) : Option Options := do
  let r ← j.record? ["logging", "server", "storage", "settings", "behaviors"]
  return {
    logging := ← r.withDefault "logging" Logging.ofJson? {}
    server := ← r.withDefault "server" Server.ofJson? {}
    fixture := ← r.withDefault "storage" storage? none
    wordingType := ← r.withDefault "settings" settings? .none
    defaultWordings := ← r.withDefault "behaviors" (Json.map? behavior?) .empty }

/-- All sections written, with `storage` as given. -/
def toJsonWith (storage : Json) (o : Options) : Json := Json.ofFields [
  ("logging", o.logging.toJson),
  ("server", o.server.toJson),
  ("storage", storage),
  ("settings", Json.ofFields [("wording_type", o.wordingType.toJson)]),
  ("behaviors", Json.ofMap (fun w => Json.ofFields [("default_wording", .string w)])
    o.defaultWordings)]

def toJson (o : Options) : Json :=
  o.toJsonWith (Json.ofFields [("fixture", Json.ofOption .string o.fixture)])

instance : JsonForm Options := ⟨ofJson?, toJson⟩

/-- The options without the name of the dataset, only whether there is one. -/
def overview (o : Options) : Json :=
  o.toJsonWith (Json.ofFields [("fixture", .bool o.fixture.isSome)])

def refuseIf (condition : Bool) (e : OptionsError) : Except OptionsError Unit :=
  if condition then throw e else return ()

def checkLogging (l : Logging) : Except OptionsError Unit := do
  refuseIf (l.output == .file && l.filePath.isNone) (.missingField "logging.file_path")
  refuseIf (l.filters.keys.any Text.allBlank) (.invalid "Log filter module cannot be empty")

def checkServer (s : Server) : Except OptionsError Unit := do
  refuseIf (Text.allBlank s.host) (.missingField "server.host")
  refuseIf (s.host.toList.any fun c => Text.isBlank c || c == '/')
    (.invalidAddress s.address "host must be a bare name or IP address")
  refuseIf (s.port == 0) (.invalidPort s.port.toNat)
  refuseIf (!Text.startsWith s.basePath "/") (.invalid "Base path must start with '/'")

/-- The first thing wrong with the options: logging, server, then behaviors. -/
def check (o : Options) : Except OptionsError Unit := do
  checkLogging o.logging
  checkServer o.server
  refuseIf (o.defaultWordings.keys.any Text.allBlank) (.invalid "Behavior id cannot be empty")

end Options

end Startup
end SynonymLookup
