import OpenDiameter.Eap.AuthEnding
import OpenDiameter.Eap.AuthQueue
import OpenDiameter.Eap.PeerQueue
import OpenDiameter.Eap.PeerSuccess

/-! The message queues of the EAP switches and their events, over whole runs. -/

set_option autoImplicit false

namespace OpenDiameter.Eap

open Foundation OpenDiameter.Framework

/-- No switch blocks on an empty queue, and none waits with a message left behind, as
long as the messages of the peer and of the authenticators are announced. -/
theorem queues_in_step (peerConfig : PeerConfig) {peer : PeerSwitch.Machine} {peerInputs : List PeerSwitch.Input}
    (peer_constructed : PeerSwitch.Constructed peer)
    (peer_announced :
      Stepwise (PeerSwitch.take peerConfig) (PeerSwitch.Announced peerConfig) peer peerInputs)
    (authConfig : AuthConfig) {auth : AuthSwitch.Machine} {authInputs : List AuthSwitch.Input}
    (auth_constructed : AuthSwitch.Constructed auth)
    (auth_announced :
      Stepwise (AuthSwitch.take authConfig) (AuthSwitch.Announced authConfig) auth authInputs) :
    Stepwise (PeerSwitch.take peerConfig) (PeerSwitch.InStep peerConfig) peer peerInputs ∧
      Stepwise (AuthSwitch.take authConfig) (AuthSwitch.InStep authConfig) auth authInputs :=
  ⟨PeerSwitch.runs_in_step peer_constructed peer_announced, AuthSwitch.runs_in_step auth_constructed auth_announced⟩

section Runs

open PeerSwitch (md5Config md5Peer md5Peer_constructed md5Run started)

open AuthSwitch (methodAuth idleAuth exchange)

theorem idleAuth_constructed : AuthSwitch.Constructed idleAuth := ⟨rfl, rfl, rfl, rfl, rfl⟩

/-- A peer and an authenticator that exchange an MD5-Challenge. -/
theorem queues_in_step_md5 :
    Stepwise (PeerSwitch.take md5Config) (PeerSwitch.InStep md5Config) md5Peer md5Run ∧
      Stepwise (AuthSwitch.take (methodAuth .standalone 4 [])) (AuthSwitch.InStep (methodAuth .standalone 4 []))
        idleAuth (.start :: exchange 4 .policyOnSuccess .valid) :=
  queues_in_step md5Config md5Peer_constructed (by decide +kernel) (methodAuth .standalone 4 []) idleAuth_constructed
    (by decide +kernel)

def messagesTogether : List PeerSwitch.Input :=
  started ++ [.receive ⟨codeResponse, 1, [4]⟩, .receive ⟨codeResponse, 2, [4]⟩, .serve, .handle, .handle, .handle,
    .handle, .handle, .handle, .serve, .handle]

/-- The second message is announced by `AcCheckRxQueue` too, and its own event finds nothing. -/
theorem messages_together : ¬∀ (peerConfig : PeerConfig) (peer : PeerSwitch.Machine)
    (peerInputs : List PeerSwitch.Input) (authConfig : AuthConfig) (auth : AuthSwitch.Machine)
    (authInputs : List AuthSwitch.Input), PeerSwitch.Constructed peer → AuthSwitch.Constructed auth →
    Stepwise (PeerSwitch.take peerConfig) (PeerSwitch.InStep peerConfig) peer peerInputs ∧
      Stepwise (AuthSwitch.take authConfig) (AuthSwitch.InStep authConfig) auth authInputs := by
  intro inStep
  have run := (inStep md5Config md5Peer messagesTogether (methodAuth .standalone 4 []) idleAuth []
    md5Peer_constructed idleAuth_constructed).1
  revert run
  decide +kernel

-- The event of a response is dropped in `StRetransmit`, and the response stays in the queue.
example : ¬Stepwise (AuthSwitch.take (methodAuth .standalone 4 [])) (AuthSwitch.InStep (methodAuth .standalone 4 []))
    idleAuth (.start :: (exchange 4 .policyOnSuccess .valid).take 11 ++
      [.timeout, .receive ⟨codeResponse, 1, [4]⟩, .serve, .handle, .serve, .handle, .serve, .handle]) := by
  decide +kernel

-- A message of the AAA server with another code is dequeued once more by `AcDiscard3`.
example : ¬Stepwise (AuthSwitch.take { kind := .passthrough, heap := [], registered := fun _ => false })
    (AuthSwitch.InStep { kind := .passthrough, heap := [], registered := fun _ => false }) idleAuth
    ([.start, .serve, .handle, .handle, .handle, .handle, .handle, .aaa .failure (some ⟨codeSuccess, 1, []⟩),
      .serve, .handle, .handle]) := by
  decide +kernel

end Runs

end OpenDiameter.Eap
