import RefundOps.Lib.Compaction
import RefundOps.Lib.Dict
import RefundOps.Foundation.Answers

/-!
# Publishing and discovering agent cards

A card reaches the discovery topic in two ways: `publish_card` writes it under the agent id on the
card, and a runtime writes its own card under the id of its *identity*, when it starts to serve,
when it is told to republish, and from time to time. Nothing makes the two ids agree. The topic is
compacted by the message key, and `discover_agents` groups what is left by the id on the card.

`discovery_stable_iff` says which histories of publications compaction cannot disturb. One in which
every runtime publishes cards of its own id is among them (`held_of_own_key`).
-/

set_option autoImplicit false

namespace RefundOps.Runtime

/-- A message on the discovery topic. The envelope around the card is read by nobody. -/
structure CardRecord where
  key : String
  card : AgentCard

/-- `publish_card`. -/
def publishCard (card : AgentCard) : CardRecord := { key := card.agentId, card }

/-! ## A runtime and its card -/

/-- A runtime with the card it publishes and, while it serves, with a publisher. -/
structure Host where
  runtime : AgentRuntime
  card : AgentCard
  serving : Bool

namespace Host

def init (agentId : String) (card : AgentCard) : Host :=
  { runtime := .init agentId card, card, serving := false }

/-- `_publish_card`. -/
def publishCard (h : Host) : CardRecord := { key := h.runtime.agentId, card := h.card }

/-- `republish_card`: the new card, and what is sent if there is a publisher. The capability ids
    were taken from the first card and stay. -/
def republishCard (h : Host) (card : Option AgentCard) : Host × Option CardRecord :=
  let h := { h with card := card.getD h.card }
  (h, if h.serving then some h.publishCard else none)

end Host

/-! ## Discovery -/

/-- A card that was published, by `publish_card` or by a runtime as it was at the time. -/
inductive Publication where
  | direct (card : AgentCard)
  | host (h : Host)

def Publication.record : Publication → CardRecord
  | .direct card => publishCard card
  | .host h => h.publishCard

/-- The dictionary that `discover_agents` fills; its values are the result. -/
def discoverAgents (log : List CardRecord) : Dict String AgentCard :=
  log.foldl (fun latest r => latest.set r.card.agentId r.card) .empty

/-- The agent id that a record is discovered under. -/
def CardRecord.agentId (r : CardRecord) : String := r.card.agentId

/-- Filling a dictionary that already has cards. -/
theorem get?_foldl_set (log : List CardRecord) (d : Dict String AgentCard) (id : String) :
    (log.foldl (fun latest r => latest.set r.card.agentId r.card) d).get? id =
      (latest CardRecord.agentId CardRecord.card id log).or (d.get? id) := by
  induction log generalizing d with
  | nil => rfl
  | cons r log ih =>
    rw [List.foldl_cons, ih, latest, Option.or_assoc, Dict.get?_set]
    by_cases h : r.agentId = id
    · rw [if_pos h, if_pos (show id = r.card.agentId from h.symm), Option.some_or]
    · rw [if_neg h, if_neg (show ¬ id = r.card.agentId from fun hc => h hc.symm), Option.none_or]

/-- **What is discovered of an agent is the last card with its id.** -/
theorem discoverAgents_get? (log : List CardRecord) (id : String) :
    (discoverAgents log).get? id = latest CardRecord.agentId CardRecord.card id log := by
  unfold discoverAgents
  rw [get?_foldl_set, Dict.get?_empty, Option.or_none]

/-- Every compaction of the log shows the same card of every agent. -/
def StablyDiscovered (log : List CardRecord) : Prop :=
  ∀ log', Compacts CardRecord.key log log' →
    ∀ id, (discoverAgents log').get? id = (discoverAgents log).get? id

/-- The last card of every agent is held by a record of its own key: no later record has that key,
    and no later record of the agent has another card. -/
def CardsHeld (log : List CardRecord) : Prop :=
  ∀ id, (∃ r ∈ log, r.agentId = id) →
    Held CardRecord.key CardRecord.agentId CardRecord.card id log

/-- **Discovery is stable under compaction exactly when the last cards are held.** For every
    history of publications, by any number of runtimes. -/
theorem discovery_stable_iff (ps : List Publication) :
    StablyDiscovered (ps.map Publication.record) ↔ CardsHeld (ps.map Publication.record) := by
  generalize ps.map Publication.record = log
  unfold StablyDiscovered CardsHeld
  simp only [discoverAgents_get?]
  constructor
  · intro h id hid
    exact (latest_stable_iff hid).mp fun log' hc => h log' hc id
  · intro h log' hc id
    by_cases hid : ∃ r ∈ log, r.agentId = id
    · exact (h id hid).latest_eq hc
    · -- an agent that was never published is not discovered in what is left either
      have hnone : latest CardRecord.agentId CardRecord.card id log = none :=
        latest_eq_none_iff.mpr fun r hr hrid => hid ⟨r, hr, hrid⟩
      have hnone' : latest CardRecord.agentId CardRecord.card id log' = none :=
        latest_eq_none_iff.mpr fun r hr hrid => hid ⟨r, hc.subset hr, hrid⟩
      rw [hnone, hnone']

/-- Records under the id on their card are held by the last of them. -/
theorem held_of_own_key {log : List CardRecord} (h : ∀ r ∈ log, r.key = r.agentId) :
    CardsHeld log := by
  induction log with
  | nil =>
    rintro id ⟨r, hr, -⟩
    exact absurd hr List.not_mem_nil
  | cons r log ih =>
    rw [List.forall_mem_cons] at h
    rintro id ⟨r', hr', hid⟩
    by_cases hlater : ∃ r'' ∈ log, r''.agentId = id
    · exact (ih h.2 id hlater).cons r
    · obtain rfl : r' = r := by
        rcases List.mem_cons.mp hr' with rfl | hr'
        · rfl
        · exact absurd ⟨r', hr', hid⟩ hlater
      refine ⟨[], r', log, rfl, hid, ?_, ?_⟩
      · intro r'' hr'' hkey
        refine hlater ⟨r'', hr'', ?_⟩
        rw [← h.2 r'' hr'', hkey, h.1, hid]
      · intro r'' hr'' hg
        exact absurd ⟨r'', hr'', hg⟩ hlater

/-! ### Two cards under one key -/

def cardNamed (agentId version : String) : AgentCard :=
  { agentId, name := agentId, description := "", version, endpointTopic := agentId
    capabilities := [{ id := "assess", name := "Assess", description := "Assesses" }] }

/-- A runtime that publishes the card of `agent-b` and then, republishing, that of `agent-c`. -/
def renamedHost : List Publication :=
  let h := Host.init "agent-a" (cardNamed "agent-b" "1.0.0")
  [.host h, .host (h.republishCard (cardNamed "agent-c" "1.0.0")).1]

/-- `agent-b` is discovered before compaction and gone after. -/
theorem renamed_card_is_lost : ¬ ∀ ps : List Publication,
    StablyDiscovered (ps.map Publication.record) := by
  intro h
  have hc : Compacts CardRecord.key (renamedHost.map Publication.record)
      [{ key := "agent-a", card := cardNamed "agent-c" "1.0.0" }] :=
    .drop _ ⟨_, List.mem_singleton_self _, rfl⟩ (.keep _ .nil)
  have hsame := h renamedHost _ hc "agent-b"
  rw [discoverAgents_get?, discoverAgents_get?] at hsame
  exact absurd hsame (by nofun)

end RefundOps.Runtime
