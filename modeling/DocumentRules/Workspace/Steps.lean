import DocumentRules.Workspace

/-!
A workspace that is used step by step. A step that fails changes nothing, and neither
does a check.
-/

set_option autoImplicit false

namespace DocumentRules

inductive WorkspaceStep where
  /-- Gives a name to the registry of the core. -/
  | keepCore (name : String)
  | createRegistry (name : String)
  | createBundledRegistry (name : String)
  | copyRegistry (source name : String)
  | gatherRegistry (source : String) (entries : List String) (name : String)
  | register (registry name : String) (given : Declaration) (textual : Bool)
  /-- Keeps a datum of the caller's own. -/
  | keepGiven (datum : Declaration) (name : String)
  | loadDocument (path name : String)
  | keepPart (source : String) (way : List Selector) (name : String)
  | compose (parts : List (String × String × List Selector)) (name : String)
  | removeKey (source : String) (way : List Selector) (key : String)
  | makeContract (name : String) (title description version : Value) (source : String)
      (way : List Selector) (registry : Option String)
  | loadContract (path name : String) (registry : Option String)
  | check (contract : String) (value : Value)

namespace Workspace

def apply (workspace : Workspace) (disk : Disk) : WorkspaceStep → Except Fault Workspace
  | .keepCore name => .ok (workspace.keep name (.registry 0))
  | .createRegistry name => workspace.makeRegistry name .create
  | .createBundledRegistry name => workspace.makeRegistry name .createBundled
  | .copyRegistry source name => workspace.copyRegistry source name
  | .gatherRegistry source entries name => workspace.gatherRegistry source entries name
  | .register registry name given textual => workspace.register registry name given textual
  | .keepGiven datum name => .ok (workspace.keepFresh name datum)
  | .loadDocument path name => workspace.loadDocument disk path name
  | .keepPart source way name => workspace.keepPart source way name
  | .compose parts name => workspace.compose parts name
  | .removeKey source way key => workspace.removeKey source way key
  | .makeContract name title description version source way registry =>
      workspace.makeContract name title description version source way registry
  | .loadContract path name registry => workspace.loadContract disk path name registry
  | .check contract value => (workspace.check contract value).map fun _ => workspace

/-- What a step leaves, which is the same workspace if the step fails. -/
def leaves (workspace : Workspace) : Except Fault Workspace → Workspace
  | .ok changed => changed
  | .error _ => workspace

def after (disk : Disk) (workspace : Workspace) (step : WorkspaceStep) : Workspace :=
  workspace.leaves (workspace.apply disk step)

/-- What a run of steps makes of a new workspace. -/
def run (disk : Disk) (steps : List WorkspaceStep) : Workspace := steps.foldl (after disk) {}

end Workspace

end DocumentRules
