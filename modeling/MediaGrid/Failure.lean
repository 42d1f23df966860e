import MediaGrid.Artifact.Basic
import MediaGrid.Config

/-!
# Failures

Why an operation of the grid fails, and the texts that say so.
-/

namespace MediaGrid

/-- Why an operation fails. -/
inductive Failure where
  /-- A file could not be read. -/
  | unreadableFile
  /-- A text is not of the form it should have. -/
  | malformedText
  /-- The backend reports an error. -/
  | backend (report : String)
  /-- The grid has no entry of this id. -/
  | notFound (id : ItemId)
  /-- A query asks for pages without results. -/
  | emptyPages
  /-- The configuration breaks a rule. -/
  | config (fault : ConfigFault)

/-- What a failure says. -/
def Failure.message : Failure → String
  | .unreadableFile => "IO error"
  | .malformedText => "Serialization error"
  | .backend report => "Backend error: " ++ report
  | .notFound id => "Artifact not found: " ++ id.text
  | .emptyPages => "Invalid input: results_per_page must be positive"
  | .config fault => "Config error: " ++ fault.message

/-- A configuration that meets the rules. -/
def Config.checked (config : Config) : Except Failure Config :=
  match config.fault? with
  | some fault => .error (.config fault)
  | none => .ok config

end MediaGrid
