import CaseSuite.Value
/-!
Configurations: what a suite says about the application, its services and environment, and the tree
of its cases. A fragment is what one file says; a configuration is what all of them say together.
-/
set_option autoImplicit false

namespace CaseSuite

/-- What requests take where they leave something out. -/
structure RequestDefaults where
  url : Option String
  method : Option String
  headers : Entries Value

def RequestDefaults.blank : RequestDefaults := ⟨none, none, []⟩

/-- The application under test: how it is asked, and with what defaults. -/
structure Application where
  requestType : String
  defaults : RequestDefaults

/-- A declared service: its type and everything else that is written for it. -/
structure ServiceDeclaration where
  serviceType : String
  params : Entries Value

/-- Chooses general cases for a node and overrides their requests. -/
structure Selector where
  request : Option Value
  includes : List String
  excludes : List String

def Selector.blank : Selector := ⟨none, [], []⟩

/-- What the body of a response is held against. -/
inductive ExpectedResponse where
  /-- Nothing is expected. -/
  | absent
  /-- The body must be empty. -/
  | empty
  | pattern (v : Value)

def ExpectedResponse.isAbsent : ExpectedResponse → Bool
  | .absent => true
  | _ => false

/-- What a node of the case tree says for itself. -/
structure CaseFields where
  prepareServices : Entries Value
  request : Option Value
  modifyRequest : Option Value
  expectedResponse : ExpectedResponse
  expectedCode : Option Nat
  checkServices : List (Entries Value)
  only : Option Bool
  skip : Option Bool
  generalCases : Option Selector
  saveResponseTo : Option String

namespace CaseFields

def blank : CaseFields := ⟨[], none, none, .absent, none, [], none, none, none, none⟩

def isOnly (c : CaseFields) : Bool := c.only == some true

def isSkipped (c : CaseFields) : Bool := c.skip == some true

/-- The code that is asserted; zero asserts nothing. -/
def assertedCode (c : CaseFields) : Option Nat := c.expectedCode.filter (· != 0)

/-- Whether the node asks for a test of its own. -/
def definesRequest (c : CaseFields) : Bool :=
  c.request.isSome || c.modifyRequest.isSome || c.assertedCode.isSome ||
    !c.expectedResponse.isAbsent

end CaseFields

/-- A node of the case tree with the nodes below it, in their order. -/
structure CaseNode where
  own : CaseFields
  cases : List (String × CaseNode)

def CaseNode.blank : CaseNode := ⟨.blank, []⟩

/-- A set of cases that nodes can take over by its name. -/
structure GeneralCase where
  autoInclude : Bool
  cases : Entries CaseNode

def GeneralCase.blank : GeneralCase := ⟨false, []⟩

def Selector.selects (s : Selector) (name : String) (general : GeneralCase) : Bool :=
  (general.autoInclude || s.includes.contains name) && !s.excludes.contains name

/-- What one file of a suite says. -/
structure Fragment where
  application : Option Application
  services : Entries ServiceDeclaration
  environment : Entries Value
  generalCases : Entries GeneralCase
  cases : Entries CaseNode

def Fragment.blank : Fragment := ⟨none, [], [], [], []⟩

/-- A whole suite; relative places of services start at the base directory. -/
structure Config where
  application : Application
  services : Entries ServiceDeclaration
  environment : Entries Value
  generalCases : Entries GeneralCase
  cases : Entries CaseNode
  baseDir : String

end CaseSuite
