import OpenDiameter.Foundation.Octets

/-! EAP types, messages, and authentication policies.

The elements of a policy are linked by pointers, and an application may set the
links of an element at any time, also after others point to it.
-/

set_option autoImplicit false

namespace OpenDiameter.Eap

open Foundation

section Messages

structure EapType where
  type : UInt8
  vendorId : UInt16 := 0
  vendorType : UInt16 := 0
  deriving DecidableEq, Repr

namespace EapType

def vendor (vendorId vendorType : UInt16) : EapType := ⟨254, vendorId, vendorType⟩

def isVSE (ty : EapType) : Bool := ty.type == 254 && ty != vendor 0 0

end EapType

/-- `EapCode`. -/
def codeRequest : UInt8 := 1

def codeResponse : UInt8 := 2

def codeSuccess : UInt8 := 3

def codeFailure : UInt8 := 4

/-- A message as the header parser leaves it: `payload` is what the length of the
header covers after it. -/
structure EapMessage where
  code : UInt8
  identifier : UInt8
  payload : Octets
  deriving DecidableEq, Repr

def ntohs (x : UInt16) : UInt16 := x <<< 8 ||| x >>> 8

/-- `(ACE_UINT16)*rd_ptr()` of a signed `char`. -/
def charToUInt16 (c : UInt8) : UInt16 := .ofInt c.toInt8.toInt

/-- The type that `EapRequestParser` reads, and `EapResponseParser` with it. In the
vendor id `*rd_ptr() && 0x00ffffff` is 1. -/
def EapMessage.type (msg : EapMessage) : EapType :=
  let type := msg.payload.getD 0 0
  if type = 254 then .vendor (ntohs 1) (ntohs (charToUInt16 (msg.payload.getD 4 0))) else { type }

def EapMessage.typeData (msg : EapMessage) : Octets := msg.payload.drop 1

/-- `UTF8Checker`. The masks of the loop that counts the first octet's bits are
applied with `&&`, and a signed `char` shifted by 6 is never 2, so that nothing
passes but the octets from 1 to 127. -/
def utf8Checker : Octets → Bool
  | [] => true
  | b :: rest => if b ≠ 0 ∧ b >>> 7 = 0 then utf8Checker rest else false

/-- `EapNakParser::parseRawToApp` without a dictionary: its loop runs over the list
that it should fill. -/
def nakTypeList (_ : EapMessage) : List EapType := []

end Messages

section Elements

inductive PolicySwitch where
  | policyOnSuccess | policyOnFailure
  deriving DecidableEq, Repr

/-- An `EapPolicyElement*`; the two leaves are singletons. -/
inductive PolicyElement where
  | null | finalSuccess | finalFailure
  | continued (id : Nat)
  deriving DecidableEq, Repr

structure ContinuedPolicyElement where
  methodType : EapType
  nextOnSuccess : PolicyElement := .finalSuccess
  nextOnFailure : PolicyElement := .finalFailure
  deriving DecidableEq, Repr

namespace ContinuedPolicyElement

def nextPolicyElement (e : ContinuedPolicyElement) : PolicySwitch → PolicyElement
  | .policyOnSuccess => e.nextOnSuccess
  | .policyOnFailure => e.nextOnFailure

def addSuccessPolicyElement (e : ContinuedPolicyElement) : PolicySwitch → ContinuedPolicyElement
  | .policyOnSuccess => { e with nextOnSuccess := .finalSuccess }
  | .policyOnFailure => { e with nextOnFailure := .finalSuccess }

/-- It takes the instance of `EapSuccessPolicyElement_S`. -/
def addFailurePolicyElement (e : ContinuedPolicyElement) : ContinuedPolicyElement :=
  { e with nextOnFailure := .finalSuccess }

def addContinuedPolicyElement (e : ContinuedPolicyElement) (p : PolicyElement) :
    PolicySwitch → ContinuedPolicyElement
  | .policyOnSuccess => { e with nextOnSuccess := p }
  | .policyOnFailure => { e with nextOnFailure := p }

end ContinuedPolicyElement

abbrev PolicyHeap := List ContinuedPolicyElement

inductive PolicyCall where
  | construct (methodType : EapType)
  | addSuccessPolicyElement (id : Nat) (sw : PolicySwitch)
  | addFailurePolicyElement (id : Nat)
  | addContinuedPolicyElement (id : Nat) (p : PolicyElement) (sw : PolicySwitch)
  deriving DecidableEq, Repr

def PolicyHeap.call (heap : PolicyHeap) : PolicyCall → PolicyHeap
  | .construct methodType => heap ++ [{ methodType }]
  | .addSuccessPolicyElement id sw => heap.modify id (·.addSuccessPolicyElement sw)
  | .addFailurePolicyElement id => heap.modify id (·.addFailurePolicyElement)
  | .addContinuedPolicyElement id p sw => heap.modify id (·.addContinuedPolicyElement p sw)

def PolicyHeap.build (calls : List PolicyCall) : PolicyHeap := calls.foldl call []

end Elements

section Policies

structure EapPolicy where
  initialPolicyElement : PolicyElement
  currentPolicyElement : PolicyElement
  deriving DecidableEq, Repr

namespace EapPolicy

variable (heap : PolicyHeap)

def element : PolicyElement → Option ContinuedPolicyElement
  | .continued id => heap[id]?
  | _ => none

/-- `policy.CurrentPolicyElement(policy.InitialPolicyElement())`. -/
def restart (policy : EapPolicy) : EapPolicy :=
  { policy with currentPolicyElement := policy.initialPolicyElement }

def isSatisfied (policy : EapPolicy) : Bool := policy.currentPolicyElement == .finalSuccess

def currentMethod (policy : EapPolicy) : Option EapType :=
  (element heap policy.currentPolicyElement).map (·.methodType)

def allow (policy : EapPolicy) (t : EapType) : Bool :=
  if t = { type := 2 } then true
  else if policy.currentPolicyElement = .finalSuccess then true
  else policy.currentMethod heap == some t

def update (policy : EapPolicy) (sw : PolicySwitch) : EapPolicy :=
  match element heap policy.currentPolicyElement with
  | some e => { policy with currentPolicyElement := e.nextPolicyElement sw }
  | none => policy

def updateListFor (typeL : List EapType) : Nat → EapPolicy → EapPolicy
  | 0, policy => policy
  | count + 1, policy =>
    if (element heap policy.currentPolicyElement).isNone then policy
    else
      let next := policy.update heap .policyOnFailure
      if typeL.isEmpty || (next.currentMethod heap).any typeL.contains then next
      else updateListFor typeL count next

/-- `Update` with a type list: no path of a tree is longer than its elements. -/
def updateList (policy : EapPolicy) (typeL : List EapType) : EapPolicy :=
  policy.updateListFor heap typeL heap.length

/-- The private `MakeTypeList`; it calls itself on the current element again, so that
at most two types are added. -/
def makeTypeListFor (policy : EapPolicy) : Nat → List EapType → Bool → List EapType
  | 0, typeL, _ => typeL
  | count + 1, typeL, isVSE =>
    match element heap policy.currentPolicyElement with
    | none => typeL
    | some cpe =>
      let type := if !isVSE && cpe.methodType.isVSE then { type := 254 } else cpe.methodType
      if typeL.contains type then typeL
      else
        let onSuccess :=
          policy.makeTypeListFor count (typeL ++ [type]) (cpe.nextPolicyElement .policyOnSuccess != .null)
        policy.makeTypeListFor count onSuccess (cpe.nextPolicyElement .policyOnFailure != .null)

def makeTypeList (policy : EapPolicy) (isVSE : Bool) : List EapType :=
  let typeL := policy.makeTypeListFor heap 3 [] isVSE
  if typeL.isEmpty then [{ type := 0 }] else typeL

def supportPickUp (type : EapType) : Bool := type == { type := 1 }

/-- A `Nak` comes with no type, and goes one hop down the failure branch. -/
theorem updateList_nil (policy : EapPolicy) {heap : PolicyHeap} {e : ContinuedPolicyElement}
    (here : element heap policy.currentPolicyElement = some e) :
    policy.updateList heap [] = policy.update heap .policyOnFailure := by
  have inhabited : heap.length ≠ 0 := by
    intro empty
    rw [List.length_eq_zero_iff.mp empty] at here
    cases current : policy.currentPolicyElement <;> rw [current] at here <;> cases here
  obtain ⟨count, length⟩ := Nat.exists_eq_succ_of_ne_zero inhabited
  rw [updateList, length, updateListFor, here]
  rfl

end EapPolicy

end Policies

end OpenDiameter.Eap
