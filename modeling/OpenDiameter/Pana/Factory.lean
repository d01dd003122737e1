import OpenDiameter.Foundation.Runs
import OpenDiameter.Pana.Paa
import OpenDiameter.RbTree.Dbase

/-! The factory of the sessions of a PAA, and the database of their ids.

A session is known by its number in the order of creation. Ids are drawn from the clock
or taken from an answer that nothing protects; a session that is reset forgets its id,
and nothing takes it out of the database.
-/

set_option autoImplicit false

namespace OpenDiameter.Pana

open Foundation OpenDiameter.RbTree

/-- The order of `ACE_UINT32`. -/
instance instLinearOrderUInt32 : LinearOrder UInt32 where
  le_refl _ := UInt32.le_refl _
  le_trans _ _ _ := UInt32.le_trans
  lt_iff_le_not_ge _ _ := Std.LawfulOrderLT.lt_iff _ _
  le_antisymm _ _ := UInt32.le_antisymm
  le_total := UInt32.le_total
  toDecidableLE _ _ := inferInstance
  toDecidableEq _ _ := inferInstance
  toDecidableLT _ _ := inferInstance

section Factory

/-- What the clock and the random numbers give to a new session. -/
structure Birth where
  sec : Nat
  usec : Nat
  isn : UInt32
  mskId : UInt32
  deriving DecidableEq, Repr

/-- `tv.sec() + tv.usec()`. -/
def Birth.id (birth : Birth) : UInt32 := UInt32.ofNat (birth.sec + birth.usec)

/-- A `PANA_PaaSession` that the factory created, and the session id that it was created for. -/
structure Created where
  id : UInt32
  machine : Machine PaaEvent

/-- `PANA_PaaSessionFactory`, `PANA_SESSIONDB` and what was passed to the channel without
a session. `m_RetryPSR` of the configuration changes. -/
structure Factory where
  config : Config
  db : DbaseTree UInt32 Nat
  sessions : List Created
  sent : List Message

/-- What is thrown out of `Receive`: a `PANA_Exception`, with its code, or a `DB_ERROR`. -/
inductive Escape where
  | invalidMessage (description : String)
  | noMemory (description : String)
  | database (cause : DbError)
  deriving DecidableEq, Repr

namespace Factory

def new (config : Config) : Factory := { config, db := .new, sessions := [], sent := [] }

variable (factory : Factory)

/-- More turns than the database can take, since it has no more entries than there are sessions. -/
def fuel : Nat := factory.sessions.length + 1

/-- `PANA_SESSIONDB_SEARCH`. -/
def search (id : UInt32) : Option (Except DbError Nat) := factory.db.search factory.fuel id

/-- `PANA_SESSIONDB_ADD` of a session that was created, after which `ready` makes it ready. -/
def addSession (session : Session) (ready : Session → Machine PaaEvent) : Option (Factory × Option Escape) := do
  match ← factory.db.add factory.fuel session.sessionId factory.sessions.length (factory.db.freeBlock factory.fuel) with
  | .ok db =>
    return ({ factory with db, sessions := factory.sessions ++ [⟨session.sessionId, ready session⟩] }, none)
  | .error cause =>
    return ({ factory with sessions := factory.sessions ++ [⟨session.sessionId, .opening session⟩] },
      some (.database cause))

/-- `Create`: the constructor of `PANA_Paa` takes the id from the clock. -/
def create (birth : Birth) : Session :=
  Session.constructed .paa factory.config birth.id birth.isn birth.mskId {} {}

def statelessTxPSR (addr : InetAddr) (birth : Birth) : Factory :=
  { factory with
    sent := factory.sent ++
      [{ type := mtypePSR, request := true, sessionId := birth.id, seq := birth.isn, destAddress := addr }] }

def pacFound (addr : InetAddr) (birth : Birth) : Option (Factory × Option Escape) :=
  if factory.config.optimizedHandshake || factory.config.retryPSR then do
    let (after, escape) ← factory.addSession (factory.create birth) fun session =>
      let (session, event) := Paa.call factory.config .pacFound { session with pacAddress := addr }
      (Machine.opening session).notify { event := event }
    let retryPSR := factory.config.optimizedHandshake || factory.config.retryPSR
    return ({ after with config := { after.config with retryPSR } }, escape)
  else some (factory.statelessTxPSR addr birth, none)

def rxPCI (msg : Message) (birth : Birth) : Option (Factory × Option Escape) :=
  if msg.seq ≠ 0 then some (factory, some (.invalidMessage "Received PCI with non-zero seq num"))
  else if msg.sessionId ≠ 0 then some (factory, some (.invalidMessage "Received PCI with non-zero session id"))
  else factory.pacFound msg.srcAddress birth

def statelessRxPSA (msg : Message) (birth : Birth) : Option (Factory × Option Escape) :=
  if msg.sessionId = 0 then some (factory, some (.noMemory "PSA has a zero session identifier"))
  else
    factory.addSession
      { factory.create birth with
        pacAddress := msg.srcAddress
        lastTxSeqNum := msg.seq
        sessionId := msg.sessionId }
      fun session => (Machine.opening session).receive msg

def drive (i : Nat) (turn : Machine PaaEvent → Machine PaaEvent) : Factory :=
  { factory with sessions := factory.sessions.modify i fun created => { created with machine := turn created.machine } }

/-- `Receive`. What is thrown where a session is looked for is caught, but what its handler
throws is not. -/
def receive (msg : Message) (birth : Birth) : Option (Factory × Option Escape) := do
  match ← factory.search msg.sessionId with
  | .ok i => return (factory.drive i fun machine => machine.receive msg, none)
  | .error .entryNotFound =>
    if msg.type = mtypePCI then factory.rxPCI msg birth
    else if msg.type = mtypePSR then factory.statelessRxPSA msg birth
    else return (factory, none)
  | .error _ => return (factory, none)

end Factory

inductive FactoryInput where
  | receive (msg : Message) (birth : Birth)
  | pacFound (addr : InetAddr) (birth : Birth)
  | serve (i : Nat) (filtering acting : Draws)
  | call (i : Nat) (c : Paa.Call)
  | timeout (i : Nat) (tid : TimerId)
  deriving DecidableEq, Repr

namespace Factory

variable (crypto : Crypto) (factory : Factory)

def program : Program PaaEvent PaaAction Paa.Call := Paa.program crypto factory.config

def step : FactoryInput → Option (Factory × Option Escape)
  | .receive msg birth => factory.receive msg birth
  | .pacFound addr birth => factory.pacFound addr birth
  | .serve i filtering acting =>
    some (factory.drive i ((factory.program crypto).step · (.serve filtering acting)), none)
  | .call i c => some (factory.drive i ((factory.program crypto).step · (.call c)), none)
  | .timeout i tid => some (factory.drive i ((factory.program crypto).step · (.timeout tid)), none)

def take (input : FactoryInput) : Factory := (factory.step crypto input).elim factory Prod.fst

end Factory

end Factory

end OpenDiameter.Pana
