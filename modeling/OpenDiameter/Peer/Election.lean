import OpenDiameter.Parser.Grammars
import OpenDiameter.Peer.PeerEntry

/-! The election between two connections of the same pair of peers.

The shorter name is filled up with an octet that no identity has, so that names of
different lengths never come out equal.
-/

set_option autoImplicit false

namespace OpenDiameter.Peer

open Foundation OpenDiameter.Parser

section Identities

def identityOctet (b : UInt8) : Bool := isBlank b || Foundation.isAlpha b || Foundation.isDigit b || b == 45 || b == 95 || b == 46

theorem identityOctet_blank (b : UInt8) (blank : isBlank b = true) : identityOctet b = true := by
  simp [identityOctet, blank]

theorem within_alpha : (alphaP : Rule Unit).Within identityOctet := by
  refine .one identityOctet_blank fun b alpha => ?_
  simp [identityOctet, alpha]

theorem within_digit : (digitP : Rule Unit).Within identityOctet := by
  refine .one identityOctet_blank fun b digit => ?_
  simp [identityOctet, digit]

theorem within_ch {b : UInt8} (allowed : identityOctet b = true) : (Rule.ch b : Rule Unit).Within identityOctet := by
  refine .one identityOctet_blank fun c same => ?_
  rw [beq_iff_eq.mp same]
  exact allowed

theorem within_nameOctet : (alnumP <|> chP '-' <|> chP '_' : Rule Unit).Within identityOctet := by
  refine .orElse (.one identityOctet_blank fun b alnum => ?_) (.orElse (within_ch (by decide)) (within_ch (by decide)))
  rcases Bool.or_eq_true_iff.mp alnum with alpha | digit
  · simp [identityOctet, alpha]
  · simp [identityOctet, digit]

theorem within_label : DiamidentGrammar.label.Within identityOctet := by
  refine .orElse (.andThen within_alpha (.many within_nameOctet)) (.andThen within_digit ?_)
  exact .andThen within_nameOctet (.many within_nameOctet)

theorem within_identity : DiamidentGrammar.diameterIdentity.Within identityOctet :=
  .andThen within_label (.many (.andThen (within_ch (by decide)) within_label))

theorem pad_not_mem {identity : Octets} (accepted : spirit.diamident identity = true) : (0x08 : UInt8) ∉ identity := by
  intro mem
  obtain ⟨s, whole⟩ := Option.isSome_iff_exists.mp accepted
  have allowed := within_identity.full identityOctet_blank whole _ mem
  exact absurd allowed (by decide)

end Identities

section Result

variable {Io : Type}

/-- Of two nodes one wins, and the other leaves its machine as it is. -/
theorem elect_one_winner {config config' : PeerConfig} {fsm fsm' : PeerFsm Io}
    (accepted : spirit.diamident config.identity = true) (accepted' : spirit.diamident config'.identity = true)
    (distinct : config.identity ≠ config'.identity)
    (host : fsm.capabilities.host = config'.identity) (host' : fsm'.capabilities.host = config.identity) :
    (fsm.elect config = fsm.emit (.notify .winElection) ∧ fsm'.elect config' = fsm') ∨
      (fsm.elect config = fsm ∧ fsm'.elect config' = fsm'.emit (.notify .winElection)) := by
  unfold PeerFsm.elect
  rw [host, host']
  rcases electHosts_clean (pad_not_mem accepted) (pad_not_mem accepted') distinct with ⟨wins, loses⟩ | ⟨loses, wins⟩
  · rw [wins, loses]
    exact .inl ⟨rfl, rfl⟩
  · rw [wins, loses]
    exact .inr ⟨rfl, rfl⟩

/-- A node of this name, with no applications. -/
def namedConfig (identity : Octets) : PeerConfig :=
  ⟨identity, false, [], [], [], 0, 0, fun _ => 0, fun _ => 0⟩

def awareFsm (host : Octets) : PeerFsm Unit := { PeerFsm.initial with capabilities := { PeerCapabilities.blank with host } }

/-- `a` and `ab`: the longer name wins. -/
theorem elect_one_winner_prefix :
    ((awareFsm [97, 98]).elect (namedConfig [97]) = (awareFsm [97, 98]).emit (.notify .winElection) ∧
        (awareFsm [97]).elect (namedConfig [97, 98]) = awareFsm [97]) ∨
      ((awareFsm [97, 98]).elect (namedConfig [97]) = awareFsm [97, 98] ∧
        (awareFsm [97]).elect (namedConfig [97, 98]) = (awareFsm [97]).emit (.notify .winElection)) :=
  elect_one_winner (by decide) (by decide) (by decide) rfl rfl

end Result

end OpenDiameter.Peer
