/-
  Horizon.Schema.Result
  ─────────────────────
  **RESULT CODES IN DOCUMENTS.**
-/
import Horizon.Document.Decode
import Horizon.ResultCode

namespace Horizon

/-- The name of a level in documents, or the bits of one without a name. -/
def Level.documentName : Level → Except UInt8 String
  | .success => .ok "success"
  | .info => .ok "info"
  | .status => .ok "status"
  | .temporary => .ok "temporary"
  | .permanent => .ok "permanent"
  | .usage => .ok "usage"
  | .reinit => .ok "reinitialize"
  | .reset => .ok "reset"
  | .fatal => .ok "fatal"
  | .other bits => .error bits

/-- The name of a summary in documents, or the bits of one without a name. -/
def Summary.documentName : Summary → Except UInt8 String
  | .success => .ok "success"
  | .nop => .ok "nop"
  | .wouldBlock => .ok "would_block"
  | .outOfResource => .ok "out_of_resource"
  | .notFound => .ok "not_found"
  | .invalidState => .ok "invalid_state"
  | .notSupported => .ok "not_supported"
  | .invalidArg => .ok "invalid_arg"
  | .wrongArg => .ok "wrong_arg"
  | .canceled => .ok "canceled"
  | .statusChanged => .ok "status_changed"
  | .internal => .ok "internal"
  | .invalidResultValue => .ok "invalid_result_value"
  | .other bits => .error bits

namespace Codec

/-- Levels. -/
def level : Codec Level :=
  openEnumeration
    [("success", .success), ("info", .info), ("status", .status), ("temporary", .temporary),
     ("permanent", .permanent), ("usage", .usage), ("reinitialize", .reinit),
     ("reset", .reset), ("fatal", .fatal)]
    .other Level.documentName

/-- Summaries. -/
def summary : Codec Summary :=
  openEnumeration
    [("success", .success), ("nop", .nop), ("would_block", .wouldBlock),
     ("out_of_resource", .outOfResource), ("not_found", .notFound),
     ("invalid_state", .invalidState), ("not_supported", .notSupported),
     ("invalid_arg", .invalidArg), ("wrong_arg", .wrongArg), ("canceled", .canceled),
     ("status_changed", .statusChanged), ("internal", .internal),
     ("invalid_result_value", .invalidResultValue)]
    .other Summary.documentName

end Codec

end Horizon
