import CaseSuite.Config.Basic
import CaseSuite.Yaml.Reader
/-!
Configurations in YAML. Every record refuses fields that it does not have, and mappings from names
keep the last of several entries under one name.
-/
set_option autoImplicit false

namespace CaseSuite.Yaml.Document

variable (d : Document)

def requestDefaults : (depth : Nat) → Node → Reader RequestDefaults :=
  d.record "RequestDefaults" ["url", "method", "headers"] [] .blank fun depth name node r => do
    match name with
    | "url" => return { r with url := ← d.optional (d.text "a string") node }
    | "method" => return { r with method := ← d.optional (d.text "a string") node }
    | _ => return { r with headers := ← d.named d.value depth node }

def application : (depth : Nat) → Node → Reader Application :=
  d.record "ApplicationConfig" ["request_type", "request_defaults"] ["request_type"]
    ⟨"", .blank⟩ fun depth name node a => do
    match name with
    | "request_type" => return { a with requestType := ← d.text "a string" node }
    | _ => return { a with defaults := ← d.requestDefaults depth node }

/-- The fields of a service, whose names are open: its type, and data set aside. -/
def serviceFields (depth : Nat) (type : Option String) (params : List (String × Data)) :
    List (Node × Node) → Reader (Option String × List (String × Data))
  | [] => return (type, params)
  | (key, node) :: entries => do
    let name ← d.text "field identifier" key
    if name == "type" then
      if type.isSome then throw (.repeatedField name)
      else
        let text ← d.text "a string" node
        serviceFields depth (some text) params entries
    else
      let data ← d.data .aside depth node
      serviceFields depth type (params ++ [(name, data)]) entries

/-- What was set aside for a service, as values. -/
def serviceParams (known : Entries Value) : List (String × Data) → Except Fault (Entries Value)
  | [] => return known
  | (name, data) :: params => do
    data.checkKeys
    serviceParams (known.insert name data.toValue) params

def service (depth : Nat) (node : Node) : Reader ServiceDeclaration := do
  let (entries, depth) ← d.entries "struct ServiceConfig" depth node
  match ← d.serviceFields depth none [] entries with
  | (some type, params) => return ⟨type, ← serviceParams [] params⟩
  | (none, _) => throw (.missingField "type")

def selector : (depth : Nat) → Node → Reader Selector :=
  d.record "GeneralCasesSelector" ["request", "include", "exclude"] [] .blank
    fun depth name node s => do
    match name with
    | "request" => return { s with request := ← d.optional (d.value depth) node }
    | "include" => return { s with includes := ← d.list (fun _ => d.text "a string") depth node }
    | _ => return { s with excludes := ← d.list (fun _ => d.text "a string") depth node }

/-- A response that is written but null must be empty. -/
def expectedResponse (depth : Nat) (node : Node) : Reader ExpectedResponse := do
  match ← d.optional (d.value depth) node with
  | none | some .null => return .empty
  | some v => return .pattern v

def caseFieldNames : List String :=
  ["prepare_services", "request", "modify_request", "expected_response", "expected_code",
    "check_services", "only", "skip", "general_cases", "save_response_to", "cases"]

/-- Takes one field of a node; `child` reads the nodes below. -/
def caseField (child : Node → Reader CaseNode) (depth : Nat) (name : String) (node : Node)
    (c : CaseNode) : Reader CaseNode := do
  let own := c.own
  match name with
  | "prepare_services" =>
    return { c with own := { own with prepareServices := ← d.named d.value depth node } }
  | "request" =>
    return { c with own := { own with request := ← d.optional (d.value depth) node } }
  | "modify_request" =>
    return { c with own := { own with modifyRequest := ← d.optional (d.value depth) node } }
  | "expected_response" =>
    return { c with own := { own with expectedResponse := ← d.expectedResponse depth node } }
  | "expected_code" =>
    let code ← d.optional (d.natural UInt16.size "u16") node
    return { c with own := { own with expectedCode := code } }
  | "check_services" =>
    return { c with own := { own with checkServices := ← d.list (d.named d.value) depth node } }
  | "only" => return { c with own := { own with only := ← d.optional d.bool node } }
  | "skip" => return { c with own := { own with skip := ← d.optional d.bool node } }
  | "general_cases" =>
    return { c with own := { own with generalCases := ← d.optional (d.selector depth) node } }
  | "save_response_to" =>
    let name ← d.optional (d.text "a string") node
    return { c with own := { own with saveResponseTo := name } }
  | _ => return { c with cases := ← d.named (fun _ => child) depth node }

def caseNodeWith (child : Node → Reader CaseNode) : (depth : Nat) → Node → Reader CaseNode :=
  d.record "TestCaseNode" caseFieldNames [] .blank (d.caseField child)

/-- A node of the case tree; each level of nodes takes two levels of mappings. -/
def caseNode : (depth : Nat) → Node → Reader CaseNode
  | 0 => d.caseNodeWith (fun _ => throw .malformed) 0
  | 1 => d.caseNodeWith (fun _ => throw .malformed) 1
  | depth + 2 => d.caseNodeWith (caseNode depth) (depth + 2)

def generalCase : (depth : Nat) → Node → Reader GeneralCase :=
  d.record "GeneralCaseDefinition" ["auto_include", "cases"] [] .blank fun depth name node g => do
    match name with
    | "auto_include" => return { g with autoInclude := ← d.bool node }
    | _ => return { g with cases := ← d.named d.caseNode depth node }

def fragment : (depth : Nat) → Node → Reader Fragment :=
  d.record "ConfigFragment" ["application", "services", "environment", "general_cases", "cases"] []
    .blank fun depth name node f => do
    match name with
    | "application" => return { f with application := ← d.optional (d.application depth) node }
    | "services" => return { f with services := ← d.named d.service depth node }
    | "environment" => return { f with environment := ← d.named d.value depth node }
    | "general_cases" => return { f with generalCases := ← d.named d.generalCase depth node }
    | _ => return { f with cases := ← d.named d.caseNode depth node }

end CaseSuite.Yaml.Document

namespace CaseSuite

open Yaml (Document Fault)

def readWith {α : Type} (read : Document → (depth : Nat) → Yaml.Node → Yaml.Reader α)
    (text : String) : Except Fault α :=
  let d := Document.ofText text
  d.run (read d)

def RequestDefaults.read : String → Except Fault RequestDefaults :=
  readWith Document.requestDefaults

def CaseNode.read : String → Except Fault CaseNode := readWith Document.caseNode

def Selector.read : String → Except Fault Selector := readWith Document.selector

def GeneralCase.read : String → Except Fault GeneralCase := readWith Document.generalCase

def Fragment.read : String → Except Fault Fragment := readWith Document.fragment

end CaseSuite
