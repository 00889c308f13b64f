import CaseSuite.Disk.Fault
import CaseSuite.Http.Fault
import CaseSuite.Json.Read
import CaseSuite.Place
import CaseSuite.Time.Instant
import CaseSuite.Yaml.Fault
/-!
Everything that can go wrong with a suite, by its cause. Errors of the configuration and of
resolving it stop a run before its first test; the others fail one test. Every error has one text.
-/
set_option autoImplicit false

namespace CaseSuite

inductive PluginKind where
  | service
  | requester
  | environment
  deriving DecidableEq, Repr

/-- What is wrong with a configuration or with what it gives to a collaborator. -/
inductive ConfigProblem where
  | noFiles (path : String)
  | noApplication
  | noRequestType
  | clocksNotText (given : String)
  | clocksLayout (given : String)
  | requestNotMap (given : String)
  | headersNotMap (given : String)
  | unknownRequestField (name : String)
  | requestFieldNotText (name given : String)
  | alreadyRegistered (kind : PluginKind) (name : String)
  /-- What a collaborator says in its own words. -/
  | told (text : String)

/-- Why the place that a marker names has no value. -/
inductive VariableProblem where
  | undefined (name : String)
  | noKey (name walked : String)
  | notIndex (walked segment : String)
  | outOfRange (index : Nat) (walked : String) (count : Nat)
  | noParts (segment kind walked : String)
  | unknownHelper (name : String)

inductive PatternProblem where
  | notBool (key given : String)
  | notAlone (key : String)
  | notTogether (key other : String)
  | unknownFormat (name : String)
  | formatNotText (given : String)
  | regexpNotText (key given : String)
  | regexp (source : String)
  | unknownMarker (name : String)
  | timeLayout (given : String)

inductive AssertionProblem where
  | valueNotJson (place : Place) (error : Json.Error)
  | bodyNotJson (body : String) (error : Json.Error)
  | bodyNotEmpty (body : String)
  | code (expected actual : Nat)

/-- Why a request got no response. -/
inductive RequestProblem where
  | noUrl
  | badMethod (method : String)
  | notSent (fault : Http.Fault)
  /-- What a collaborator says in its own words. -/
  | told (text : String)

/-- Why a service could not be built, prepared or checked. -/
inductive ServiceProblem where
  | noRoot
  | preparerShape (given : String)
  | unknownPreparer (name : String)
  | checkerShape (given : String)
  | unknownChecker (name : String)
  | fieldNotText (field : String)
  | notCleared (path : String) (fault : Disk.Fault)
  | notWritten (path : String) (fault : Disk.Fault)
  | notRead (path : String) (fault : Disk.Fault)
  | present (path : String)
  | missing (path : String)
  /-- What a collaborator says in its own words. -/
  | told (text : String)

/-- Why a file of a suite cannot be taken. -/
inductive FileProblem where
  | missing
  | notText
  | refused (fault : Disk.Fault)

inductive Error where
  | config (problem : ConfigProblem)
  | serviceNotBuilt (service : String) (cause : Error)
  | notYaml (path : String) (fault : Yaml.Fault)
  | conflict (path field : String)
  | undeclaredService (name : String)
  | unknownServiceType (name : String)
  | unknownRequesterType (name : String)
  | unknownInitializer (name : String)
  | undeclaredGeneralCase (name : String)
  | requestMissing (test : String)
  | leafRequestMissing (test : String)
  | preparerNotBuilt (test service : String) (cause : Error)
  | checkerNotBuilt (test service : String) (cause : Error)
  | requesterNotBuilt (test : String) (cause : Error)
  | modificationNotJoined (test : String) (cause : Error)
  | selectorNotJoined (test : String) (cause : Error)
  | interpolation (path : String) (problem : VariableProblem)
  | mismatch (place : Place) (actual expected : String)
  | missingKey (place : Place) (expected : String)
  | pattern (place : Place) (problem : PatternProblem)
  | assertion (problem : AssertionProblem)
  | request (problem : RequestProblem)
  | service (service : String) (problem : ServiceProblem)
  | disk (fault : Disk.Fault)
  | file (path : String) (problem : FileProblem)

def PluginKind.text : PluginKind → String
  | .service => "service"
  | .requester => "requester"
  | .environment => "environment"

def PluginKind.title : PluginKind → String
  | .service => "Service type"
  | .requester => "Requester type"
  | .environment => "Environment initializer"

def ConfigProblem.message : ConfigProblem → String
  | .noFiles path => s!"No configuration files found in '{path}'"
  | .noApplication => "'application' section is not defined"
  | .noRequestType => "'application.request_type' must not be empty"
  | .clocksNotText given => s!"clocks param should be non-empty string, got {given}"
  | .clocksLayout given => s!"clocks param '{given}' does not match layout {Instant.layout}"
  | .requestNotMap given => s!"graphql request should be a map, got {given}"
  | .headersNotMap given => s!"graphql request headers should be a map, got {given}"
  | .unknownRequestField name => s!"Unknown graphql request field '{name}'"
  | .requestFieldNotText name given => s!"graphql request '{name}' should be a string, got {given}"
  | .alreadyRegistered kind name => s!"{kind.title} '{name}' is already registered"
  | .told text => text

def VariableProblem.message : VariableProblem → String
  | .undefined name => s!"variable '{name}' is not defined"
  | .noKey name walked => s!"key '{name}' not found in '{walked}'"
  | .notIndex walked segment => s!"'{walked}' is a list, '{segment}' is not an index"
  | .outOfRange index walked count => s!"index {index} out of range for '{walked}' ({count} items)"
  | .noParts segment kind walked => s!"cannot read '{segment}' of {kind} '{walked}'"
  | .unknownHelper name => s!"unknown helper '{name}'"

def PatternProblem.message : PatternProblem → String
  | .notBool key given => s!"{key} value should be bool, got {given}"
  | .notAlone key => s!"{key} cannot be combined with other keys"
  | .notTogether key other => s!"{key} cannot be combined with {other}"
  | .unknownFormat name => s!"unknown format to convert to: '{name}'"
  | .formatNotText given => s!"format to convert to should be string, got {given}"
  | .regexpNotText key given => s!"{key} value should be string, got {given}"
  | .regexp source => s!"unable to compile '{source}': <regex error>"
  | .unknownMarker name => s!"unknown marker '$$_{name}'"
  | .timeLayout given => s!"'{given}' does not match timestamp layout {Instant.layout}"

def AssertionProblem.message : AssertionProblem → String
  | .valueNotJson place error => s!"value of '{place.shown}' is not valid JSON: {error.message}"
  | .bodyNotJson body error => s!"unable to decode response body {body}: {error.message}"
  | .bodyNotEmpty body => s!"expected empty response, got {body}"
  | .code expected actual => s!"expected status code {expected}, got {actual}"

def RequestProblem.message : RequestProblem → String
  | .noUrl => "url is not set and request_defaults.url is empty"
  | .badMethod method => s!"invalid method '{method}': invalid HTTP method"
  | .notSent fault => s!"unable to make request to application: {fault.message}"
  | .told text => text

def ServiceProblem.message : ServiceProblem → String
  | .noRoot => "'root' (string) should be set"
  | .preparerShape given => s!"filesystem preparer should be 'clear' or a map, got {given}"
  | .unknownPreparer name => s!"unknown filesystem preparer '{name}'"
  | .checkerShape given => s!"filesystem checker should be a map, got {given}"
  | .unknownChecker name => s!"unknown filesystem checker '{name}'"
  | .fieldNotText field => s!"'{field}' (string) should be set"
  | .notCleared path fault => s!"unable to clear '{path}': {fault.message}"
  | .notWritten path fault => s!"unable to write '{path}': {fault.message}"
  | .notRead path fault => s!"unable to read '{path}': {fault.message}"
  | .present path => s!"file '{path}' exists"
  | .missing path => s!"file '{path}' does not exist"
  | .told text => text

def FileProblem.message : FileProblem → String
  | .missing => "no such file or directory"
  | .notText => "stream did not contain valid UTF-8"
  | .refused fault => fault.message

namespace Error

def conflictMessage (path field : String) : String :=
  s!"Configuration conflict: '{field}' of '{path}' is defined more than once"

def resolveMessage (test what : String) : String :=
  s!"Unable to resolve test case '{test}': {what}"

def mismatchMessage (path actual expected : String) : String :=
  s!"Invalid value of key '{path}'\n Actual value  : {actual}\n Expected value: {expected}"

def missingText : String := "<missing>"

def message : Error → String
  | .config problem => s!"Configuration error: {problem.message}"
  | .serviceNotBuilt name cause =>
    s!"Configuration error: unable to create service '{name}': {cause.message}"
  | .notYaml path fault => s!"Invalid configuration file '{path}': {fault.reason}"
  | .conflict path field => conflictMessage path field
  | .undeclaredService name => s!"Service '{name}' is not declared"
  | .unknownServiceType name => s!"Unknown service type '{name}'"
  | .unknownRequesterType name => s!"Unknown requester type '{name}'"
  | .unknownInitializer name => s!"Unknown environment initializer '{name}'"
  | .undeclaredGeneralCase name => s!"General case '{name}' is not declared"
  | .requestMissing test => resolveMessage test "request should be set"
  | .leafRequestMissing test => resolveMessage test "general case leaf should define request"
  | .preparerNotBuilt test name cause =>
    resolveMessage test s!"unable to create preparer for service '{name}': {cause.message}"
  | .checkerNotBuilt test name cause =>
    resolveMessage test s!"unable to create checker for service '{name}': {cause.message}"
  | .requesterNotBuilt test cause =>
    resolveMessage test s!"unable to create requester: {cause.message}"
  | .modificationNotJoined test cause =>
    resolveMessage test s!"unable to apply modify_request: {cause.message}"
  | .selectorNotJoined test cause =>
    resolveMessage test s!"unable to join selector request: {cause.message}"
  | .interpolation path problem => s!"Unable to interpolate '{path}': {problem.message}"
  | .mismatch place actual expected => mismatchMessage place.shown actual expected
  | .missingKey place expected => mismatchMessage place.text missingText expected
  | .pattern place problem => s!"Invalid pattern at '{place.shown}': {problem.message}"
  | .assertion problem => s!"Test assertion failed: {problem.message}"
  | .request problem => s!"Request failed: {problem.message}"
  | .service name problem => s!"Service '{name}' failed: {problem.message}"
  | .disk fault => s!"IO error: {fault.message}"
  | .file path problem => s!"Failed to read file '{path}': {problem.message}"

end Error

end CaseSuite
