/-! Why options cannot be loaded or used. -/

namespace SynonymLookup
namespace Startup

inductive OptionsError where
  | fileNotFound (path : String)
  /-- The extension of a file of no known format. -/
  | unsupportedFormat (extension : String)
  /-- Some source is malformed, or has a value of a wrong type. -/
  | unreadable
  /-- A variable cannot be taken apart between two characters. -/
  | brokenVariable
  | invalid (reason : String)
  | missingField (field : String)
  | invalidAddress (address reason : String)
  | invalidPort (port : Nat)
deriving DecidableEq, Repr

namespace OptionsError

def message : OptionsError → String
  | fileNotFound path => "Configuration file not found: " ++ path
  | unsupportedFormat extension => "Failed to parse configuration: " ++
      "Unsupported or disabled configuration file format: ." ++ extension
  | unreadable => "Failed to parse configuration"
  | brokenVariable => "Failed to read the environment"
  | invalid reason => "Invalid configuration: " ++ reason
  | missingField field => "Missing required configuration field: " ++ field
  | invalidAddress address reason => "Invalid listen address: " ++ address ++ " - " ++ reason
  | invalidPort port => "Invalid port number: " ++ toString port

end OptionsError

end Startup
end SynonymLookup
