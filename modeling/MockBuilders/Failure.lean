/-! Why a run stops. -/
namespace MockBuilders

inductive Failure where
  /-- A payload that cannot be read as a schema. -/
  | malformed (entry reason : String)
  /-- A schema that leads back to itself, along the names from the first to its return. -/
  | cyclic (entry : String) (cycle : List String)
  /-- A reference that leads nowhere. -/
  | unresolved (entry reference : String)
  | configuration (text : String)
  deriving DecidableEq, Repr

namespace Failure

def message : Failure → String
  | malformed entry reason => "Malformed schema " ++ entry ++ ": " ++ reason
  | cyclic entry cycle => "Cyclic schema " ++ entry ++ ": " ++ String.intercalate " -> " cycle
  | unresolved entry reference =>
      "Reference not found for " ++ reference ++ " (in schema " ++ entry ++ ")"
  | configuration text => "Configuration error: " ++ text

/-- The entry at fault, if there is one. -/
def entry? : Failure → Option String
  | malformed entry _ | cyclic entry _ | unresolved entry _ => some entry
  | configuration _ => none

end Failure

end MockBuilders
