/-!
# Errors

Each error is a cause with its circumstances; its wording is one function per kind of error.
-/

namespace LiveSearch

/-- Why a subscription name is not a query. -/
inductive NameFault
  | missingSeparator
  | invalidEncoding
  | missingTable
  | missingQuery
  | orderLimitMismatch
  | invalidParameter (parameter : String)
  | malformedCondition (index : Nat)
  | unknownOperator (operator : String)
  | membershipNeedsArray
  | invalidPattern (pattern : String)
deriving DecidableEq

/-- The wording of a fault. -/
def NameFault.message : NameFault → String
  | missingSeparator => "Missing ?"
  | invalidEncoding => "Invalid JSON"
  | missingTable => "Missing parameter \"table\""
  | missingQuery => "Missing parameter \"query\""
  | orderLimitMismatch => "\"order\" and \"limit\" must be used together"
  | invalidParameter parameter => "Invalid parameter \"" ++ parameter ++ "\""
  | malformedCondition index => "Malformed condition at index " ++ toString index
  | unknownOperator operator => "Unknown operator " ++ operator
  | membershipNeedsArray => "'in' operator requires a JSON array"
  | invalidPattern pattern => "Invalid pattern " ++ pattern

/-- A rejected subscription name together with the first rule that it violates. -/
structure NameError where
  name : String
  fault : NameFault
deriving DecidableEq

/-- The wording of a rejection. -/
def NameError.message (error : NameError) : String :=
  "QUERY ERROR | " ++ error.fault.message ++ " (input: " ++ error.name ++ ")"

/-- A failure of the record store or of the list service. -/
inductive ServiceError
  | unavailable (text : String)
  | query (text : String)
  | feed (text : String)
  | publish (text : String)
deriving DecidableEq

/-- The wording of a service failure. -/
def ServiceError.message : ServiceError → String
  | unavailable text => "backend unavailable: " ++ text
  | query text => "query failed: " ++ text
  | feed text => "change feed failed: " ++ text
  | publish text => "publish failed: " ++ text

/-- What ends a session early. -/
inductive SessionError
  | initialRetrieval (cause : ServiceError)
  | changeNotification (cause : ServiceError)
deriving DecidableEq

/-- The wording of a session failure. -/
def SessionError.message : SessionError → String
  | initialRetrieval cause => "Error while retrieving initial value: " ++ cause.message
  | changeNotification cause => "Error while receiving change notification: " ++ cause.message

/-- Whatever a command, a setting or the provider can fail with. -/
inductive Failure
  | unreadable (text : String)
  | invalidJson (text : String)
  | invalidToml (text : String)
  | name (error : NameError)
  | service (error : ServiceError)
  | config (text : String)
  | command (text : String)
  | logging (text : String)
  | registryInvariant (text : String)
deriving DecidableEq

/-- The wording of a failure. -/
def Failure.message : Failure → String
  | unreadable text => "I/O error: " ++ text
  | invalidJson text => "Serde JSON: " ++ text
  | invalidToml text => "TOML: " ++ text
  | name error => error.message
  | service error => error.message
  | config text => "Configuration error: " ++ text
  | command text => "Command error: " ++ text
  | logging text => "Logging error: " ++ text
  | registryInvariant text => "Registry invariant violated: " ++ text

end LiveSearch
