import OpenDiameter.Pana.Client
import OpenDiameter.Pana.Paa

/-! What the filters and the actions of the session classes notify. -/

set_option autoImplicit false

namespace OpenDiameter.Pana

open Foundation OpenDiameter.Framework

theorem RxFilter.yields_of_queued {Event : Type} {filter : RxFilter Event} {crypto : Crypto} {draws : Draws}
    {msg : Message} {event : Message → Event} {p : Event → Prop} (resolve : filter.resolve draws = Session.queued event)
    (holds : p (event msg)) : Imperative.Yields p (filter.handleMessage crypto draws msg) := by
  apply Imperative.Yields.bind
  intro _
  apply Imperative.Yields.bind
  intro _
  rw [resolve]
  exact Imperative.Yields.bind fun _ => Imperative.yields_pure holds

theorem yields_none {Event : Type} {x : SessionM} {p : Event → Prop} :
    Imperative.Yields (fun event : Option Event => ∀ e ∈ event, p e) (do x; return none) := by
  apply Imperative.Yields.bind
  intro _
  apply Imperative.yields_pure
  rintro e ⟨⟩

namespace Client

variable (crypto : Crypto) (config : Config) (draws : Draws)

def bindEvent (msg : Message) : PacEvent :=
  let succeeded := msg.avpList.resultCode == some rcodeSuccess
  { msgType := some .pbr
    eapPayload := msg.avpList.eapPayload.isSome
    algorithmNotSupported := succeeded && msg.avpList.algorithm.any (· ≠ authAlgorithm)
    resultCode := some (if succeeded then .success else .fail) }

structure Resolved (type : MType) (msg : Message) (event : PacEvent) : Prop where
  message : event.eap = none ∧ event.app = none ∧ event.retryTimeout = false
  bind : event.msgType = some .pbr → type = mtypePBR ∧ event = bindEvent msg
  error : event.msgType = some .per → type = mtypePER ∧ msg.request = true

theorem resolved {filter : RxFilter PacEvent} {type : MType} (handles : msgHandlers config type = some filter)
    (msg : Message) : Imperative.Yields (Resolved type msg) (filter.handleMessage crypto draws msg) := by
  apply msgHandlers_cases (motive := fun type filter =>
    Imperative.Yields (Resolved type msg) (filter.handleMessage crypto draws msg)) handles
  case pbr => exact RxFilter.yields_of_queued rfl ⟨⟨rfl, rfl, rfl⟩, fun _ => ⟨rfl, rfl⟩, by simp⟩
  case pra => exact RxFilter.yields_of_queued rfl ⟨⟨rfl, rfl, rfl⟩, by simp, by simp⟩
  case psr =>
    apply Imperative.Yields.bind
    intro _
    apply Imperative.Yields.bind
    intro _
    have holds : Resolved mtypePSR msg { msgType := some .psr, eapPayload := msg.avpList.eapPayload.isSome } :=
      ⟨⟨rfl, rfl, rfl⟩, by simp, by simp⟩
    apply Imperative.Yields.bind
    intro _
    apply Imperative.Yields.ite
    · exact Imperative.Yields.bind fun _ => Imperative.Yields.bind fun _ => Imperative.yields_pure holds
    · exact Imperative.Yields.bind fun _ => Imperative.yields_pure holds
  case pe =>
    apply Imperative.Yields.bind
    intro _
    apply Imperative.Yields.bind
    intro _
    apply Imperative.Yields.bind
    intro _
    by_cases request : msg.request = true
    · rw [if_pos request]
      have holds (fatal : Bool) : Resolved mtypePER msg { msgType := some .per, fatalError := fatal } :=
        ⟨⟨rfl, rfl, rfl⟩, by simp, fun _ => ⟨rfl, request⟩⟩
      apply Imperative.Yields.bind
      intro s
      exact Imperative.Yields.bind fun _ => Imperative.Yields.bind fun _ => Imperative.yields_pure (holds _)
    · rw [if_neg request]
      exact Imperative.yields_pure ⟨⟨rfl, rfl, rfl⟩, by simp, by simp⟩
  all_goals
    refine RxFilter.yields_of_queued rfl ?_
    cases request : msg.request <;> exact ⟨⟨rfl, rfl, rfl⟩, by simp, by simp⟩

/-- An action notifies nothing but the end of the retransmissions. -/
theorem notified_perform (action : PacAction) :
    Imperative.Yields (fun event => ∀ e ∈ event, e = { retryTimeout := true })
      (perform crypto config draws action) := by
  cases action
  case null =>
    apply Imperative.yields_pure
    rintro e ⟨⟩
  case waitEapMsgExitActionTxPANTout =>
    exact Imperative.Yields.ite (Imperative.Yields.bind fun _ => yields_none) yields_none
  case openExitActionRxPAR => exact Imperative.Yields.bind fun _ => yields_none
  case exitActionRetransmission =>
    apply Imperative.Yields.bind
    rintro (_ | _)
    · apply Imperative.yields_pure
      rintro e ⟨⟩
      rfl
    · apply Imperative.yields_pure
      rintro e ⟨⟩
  all_goals exact yields_none

end Client

namespace Paa

variable (crypto : Crypto) (config : Config) (draws : Draws)

structure Resolved (type : MType) (msg : Message) (event : PaaEvent) : Prop where
  message : event.eap = none ∧ event.app = none ∧ event.retryTimeout = false
  bind : event.msgType = some .pba → type = mtypePBR
  error : event.msgType = some .per → type = mtypePER ∧ msg.request = true

theorem resolved {filter : RxFilter PaaEvent} {type : MType} (handles : msgHandlers config type = some filter)
    (msg : Message) : Imperative.Yields (Resolved type msg) (filter.handleMessage crypto draws msg) := by
  apply msgHandlers_cases (motive := fun type filter =>
    Imperative.Yields (Resolved type msg) (filter.handleMessage crypto draws msg)) handles
  case pci => exact RxFilter.yields_of_queued rfl ⟨⟨rfl, rfl, rfl⟩, by simp, by simp⟩
  case psa => exact RxFilter.yields_of_queued rfl ⟨⟨rfl, rfl, rfl⟩, by simp, by simp⟩
  case pba => exact RxFilter.yields_of_queued rfl ⟨⟨rfl, rfl, rfl⟩, fun _ => rfl, by simp⟩
  case prr => exact RxFilter.yields_of_queued rfl ⟨⟨rfl, rfl, rfl⟩, by simp, by simp⟩
  case pe =>
    apply Imperative.Yields.bind
    intro _
    apply Imperative.Yields.bind
    intro _
    apply Imperative.Yields.bind
    intro _
    apply Imperative.Yields.bind
    intro _
    apply Imperative.Yields.bind
    intro s
    apply Imperative.yields_pure
    cases request : msg.request with
    | true => exact ⟨⟨rfl, rfl, rfl⟩, by simp, fun _ => ⟨rfl, request⟩⟩
    | false => exact ⟨⟨rfl, rfl, rfl⟩, by simp, by simp⟩
  all_goals
    refine RxFilter.yields_of_queued rfl ?_
    cases request : msg.request <;> exact ⟨⟨rfl, rfl, rfl⟩, by simp, by simp [request]⟩

/-- An action notifies nothing but the end of the retransmissions. -/
theorem notified_perform (action : PaaAction) :
    Imperative.Yields (fun event => ∀ e ∈ event, e = { retryTimeout := true })
      (perform crypto config draws action) := by
  cases action
  case null =>
    apply Imperative.yields_pure
    rintro e ⟨⟩
  case exitActionRetransmission =>
    apply Imperative.Yields.bind
    rintro (_ | _)
    · apply Imperative.yields_pure
      rintro e ⟨⟩
      rfl
    · apply Imperative.yields_pure
      rintro e ⟨⟩
  all_goals exact yields_none

end Paa

end OpenDiameter.Pana
