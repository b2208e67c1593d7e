import RefundOps.Contracts.Base

/-!
# Agent cards

What an agent publishes about itself on the discovery topic, and the one pure question asked of
the cards that were read back: which of them declare a capability.
-/

set_option autoImplicit false

namespace RefundOps

structure Capability where
  id : String
  name : String
  description : String
  tags : List String := []

structure AgentCard where
  agentId : String
  name : String
  description : String
  version : String
  endpointTopic : String
  capabilities : List Capability

/-- `find_capable`, on the cards that `discover_agents` returned. -/
def findCapable (capabilityId : String) (cards : List AgentCard) : List AgentCard :=
  cards.filter fun c => c.capabilities.any fun cap => cap.id == capabilityId

end RefundOps
