import Journal.Payload

/-!
# Failures of a projection
-/

namespace Journal

/-- Why an event was not folded into a projection's state: there is no handler for its type and
version and the type is not ignored; its payload does not have the shape; it belongs to another
organization; or the handler refused it. A duplicate handler is a fault of the registry that was
made for it, and is told with version zero when a type was to be ignored. -/
inductive ProjectionError
  | unknownEvent (type : String) (version : Nat)
  | duplicateHandler (type : String) (version : Nat)
  | payload (type : String) (version : Nat) (fault : Payload.Fault)
  | orgMismatch (expected : OrgId) (found : Option OrgId)
  | rejected (id : EventId) (reason : String)
  deriving DecidableEq

namespace ProjectionError

def message : ProjectionError → String
  | .unknownEvent type version => s!"no handler registered for {type} v{version}"
  | .duplicateHandler type version => s!"duplicate handler for {type} v{version}"
  | .payload type version fault => s!"invalid payload for {type} v{version}: {fault.message}"
  | .orgMismatch expected found =>
    let shown := match found with
      | some o => s!"Some(OrgId({o.text}))"
      | none => "None"
    s!"org mismatch (expected {expected.text}, found {shown})"
  | .rejected id reason => s!"event {id} rejected: {reason}"

end ProjectionError

end Journal
