import CaseSuite.Error
/-!
The command line. Its first argument names a command; the command's own arguments are flags and at
most one path, in any order, and after two dashes everything is a path.
-/
set_option autoImplicit false

namespace CaseSuite

inductive Command where
  /-- Runs the suite at a path. -/
  | run (path : String) (verbose : Bool)
  /-- Lists the tests of the suite at a path. -/
  | list (path : String)
  /-- Tells what plugins there are. -/
  | plugins
  deriving DecidableEq, Repr

/-- Why arguments are no command. Asking for help or for the version is among the reasons. -/
inductive UsageFault where
  | help
  | version
  | nothingGiven
  | unknownCommand
  | unknownArgument
  | repeatedFlag
  | flagWithValue
  | missingPath
  | emptyPath
  deriving DecidableEq, Repr

def UsageFault.exitCode : UsageFault → Nat
  | .help | .version => 0
  | _ => 2

namespace Command

def isVerbose : Command → Bool
  | .run _ verbose => verbose
  | _ => false

/-- What a command takes. -/
structure Form where
  takesPath : Bool
  takesVerbose : Bool

/-- What arguments have given so far. -/
structure Given where
  path : Option String
  verbose : Bool

inductive Argument where
  | dashes
  | long (name : String) (hasValue : Bool)
  | short (flags : List Char)
  | word (text : String)

def Argument.ofText (text : String) : Argument :=
  match text.toList with
  | ['-', '-'] => .dashes
  | '-' :: '-' :: cs => .long (String.ofList (cs.takeWhile (· != '='))) (cs.contains '=')
  | '-' :: c :: cs => .short (c :: cs)
  | _ => .word text

/-- A path is looked at when the next flag comes, or no more arguments. -/
def Given.settle (g : Given) : Except UsageFault Given :=
  if g.path == some "" then .error .emptyPath else .ok g

def Given.setVerbose (g : Given) : Except UsageFault Given := do
  let g ← g.settle
  if g.verbose then throw .repeatedFlag else return { g with verbose := true }

def Given.askHelp (g : Given) : Except UsageFault Given := do
  let _ ← g.settle
  throw .help

def Given.addWord (form : Form) (g : Given) (text : String) : Except UsageFault Given :=
  if form.takesPath && g.path.isNone then .ok { g with path := some text }
  else .error .unknownArgument

def Given.addLong (form : Form) (g : Given) (name : String) (hasValue : Bool) :
    Except UsageFault Given :=
  if name == "help" || (form.takesVerbose && name == "verbose") then
    if hasValue then .error .flagWithValue
    else if name == "help" then g.askHelp
    else g.setVerbose
  else .error .unknownArgument

def Given.addShort (form : Form) (g : Given) (flag : Char) : Except UsageFault Given :=
  if flag == 'h' then g.askHelp
  else if form.takesVerbose && flag == 'v' then g.setVerbose
  else .error .unknownArgument

/-- No more arguments come. -/
def Given.finish (form : Form) (g : Given) : Except UsageFault Given := do
  let g ← g.settle
  if form.takesPath && g.path.isNone then throw .missingPath else return g

def Given.addAll (form : Form) (g : Given) : List String → Except UsageFault Given
  | [] => g.finish form
  | text :: rest =>
    match Argument.ofText text with
    | .dashes => do (← rest.foldlM (Given.addWord form) g).finish form
    | .long name hasValue => do (← g.addLong form name hasValue).addAll form rest
    | .short flags => do (← flags.foldlM (Given.addShort form) g).addAll form rest
    | .word text => do (← g.addWord form text).addAll form rest

/-- A command of this form, made of what its arguments give. -/
def readForm (form : Form) (make : Given → Command) (args : List String) :
    Except UsageFault Command :=
  make <$> Given.addAll form ⟨none, false⟩ args

def names : List String := ["run", "list", "ls", "plugins", "help"]

/-- Help about at most one command. -/
def readHelp : List String → UsageFault
  | [] => .help
  | [name] => if names.contains name then .help else .unknownCommand
  | _ => .unknownCommand

/-- The first argument where it is not the name of a command. -/
def readOther (rest : List String) : Argument → UsageFault
  | .dashes =>
    match rest with
    | [] => .nothingGiven
    | text :: _ => if names.contains text then .unknownArgument else .unknownCommand
  | .long name hasValue =>
    if name == "help" || name == "version" then
      if hasValue then .flagWithValue else if name == "help" then .help else .version
    else .unknownArgument
  | .short flags =>
    match flags.head? with
    | some 'h' => .help
    | some 'V' => .version
    | _ => .unknownArgument
  | .word _ => .unknownCommand

def read : List String → Except UsageFault Command
  | [] => .error .nothingGiven
  | "run" :: args => readForm ⟨true, true⟩ (fun g => .run (g.path.getD "") g.verbose) args
  | "list" :: args | "ls" :: args => readForm ⟨true, false⟩ (fun g => .list (g.path.getD "")) args
  | "plugins" :: args => readForm ⟨false, false⟩ (fun _ => .plugins) args
  | "help" :: args => .error (readHelp args)
  | text :: args => .error (readOther args (Argument.ofText text))

end Command

end CaseSuite
