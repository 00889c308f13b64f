import CaseSuite.Command.Arguments
import CaseSuite.Config.Files
import CaseSuite.Suite.OfConfig
import CaseSuite.Suite.Run
/-!
What the commands do. A suite that cannot be loaded or resolved ends a command before it has said
anything else.
-/
set_option autoImplicit false

namespace CaseSuite

/-- How a command ends: with a code, and what it has said by then. -/
structure Outcome where
  exitCode : Nat
  output : String
  complaint : String
  deriving DecidableEq, Repr

/-- The end of a command that an error stops. -/
def Outcome.ofError (e : Error) : Outcome := ⟨1, "", s!"Error: {e.message}\n"⟩

namespace Command

variable {m : Type → Type} [Monad m] [Storage m] [Http.Transport m]

/-- The suite at a path of a disk, with the plugins that are always there. -/
def suite (d : Disk) (path : String) : Except Error (Suite m GraphqlRequest) := do
  Suite.ofConfig (← Config.load d path) (Registry.builtin id)

def runSuite (colors : Bool) (s : Suite m GraphqlRequest) : m Outcome := do
  let (summary, output) ← (s.run colors).run ""
  return ⟨summary.exitCode, output, ""⟩

def listSuite (s : Suite m GraphqlRequest) : Outcome :=
  if s.tests.isEmpty then ⟨Summary.codeNothingRun, "No tests resolved\n", ""⟩
  else
    ⟨0, String.join (s.names.map (· ++ "\n")) ++
      s!"\n{s.tests.length} test(s), {s.environment.length} environment initializer(s)\n", ""⟩

/-- A name in a column of twelve characters, and a description after it. -/
def pluginLine (colors : Bool) (name description : String) : String :=
  let column := name ++ String.ofList (List.replicate (12 - name.length) ' ')
  s!"  {column} " ++ Tone.faint.apply colors description ++ "\n"

def pluginSection (colors : Bool) (registry : Registry m GraphqlRequest) (kind : PluginKind) :
    String :=
  let describe (name : String) : String :=
    ((PluginInfo.builtin.find? fun p => p.kind == kind && p.name == name).map
      PluginInfo.description).getD ""
  Tone.title.apply colors s!"{kind.text}s:" ++ "\n" ++
    String.join ((registry.names kind).map fun name => pluginLine colors name (describe name))

def listPlugins (colors : Bool) (registry : Registry m GraphqlRequest) : Outcome :=
  ⟨0, String.join ([PluginKind.requester, .service, .environment].map
    (pluginSection colors registry)), ""⟩

/-- Carries out a command; suites are loaded from the disk. -/
def execute (colors : Bool) (d : Disk) : Command → m (Except Error Outcome)
  | .run path _ =>
    match suite d path with
    | .ok s => Except.ok <$> runSuite colors s
    | .error e => pure (.error e)
  | .list path => pure ((suite (m := m) d path).map listSuite)
  | .plugins => pure (.ok (listPlugins colors (Registry.builtin (m := m) id)))

end Command

end CaseSuite
