import OpenDiameter.Foundation.Fifo
import OpenDiameter.Framework.QueueRuns
import OpenDiameter.Peer.Ownership
import OpenDiameter.Parser.Completeness
import OpenDiameter.Parser.Utf8
import OpenDiameter.Foundation.Depth
import OpenDiameter.Parser.FailedAvp
import OpenDiameter.Transport.Termination
import OpenDiameter.Foundation.Buffer
import OpenDiameter.Foundation.TwoParty
import OpenDiameter.Peer.PeerEntry
import OpenDiameter.Peer.Agreement
import OpenDiameter.Framework.GroupedJob
import OpenDiameter.Framework.RefCount
import OpenDiameter.Foundation.RedBlack
import OpenDiameter.RbTree.Nodes
import OpenDiameter.RbTree.Image
import OpenDiameter.RbTree.Fixup
import OpenDiameter.RbTree.FiniteMap
import OpenDiameter.Session.Database
import OpenDiameter.Session.DatabaseMap
import OpenDiameter.Router.Message
import OpenDiameter.Router.Tables
import OpenDiameter.Router.Delivery
import OpenDiameter.Router.Courses
import OpenDiameter.Router.Accounting
import OpenDiameter.Router.Redirection
import OpenDiameter.Router.RedirectChoice
import OpenDiameter.Router.RouteServers
import OpenDiameter.Router.RouteApplications
import OpenDiameter.Foundation.Runs
import OpenDiameter.Peer.Timers
import OpenDiameter.Peer.Reconnect
import OpenDiameter.Peer.Stopping
import OpenDiameter.Peer.Validation
import OpenDiameter.Peer.Sending
import OpenDiameter.Peer.Identifiers
import OpenDiameter.Eap.PeerSwitch
import OpenDiameter.Eap.PeerActions
import OpenDiameter.Eap.PeerSuccess
import OpenDiameter.Eap.AuthSwitch
import OpenDiameter.Eap.AuthActions
import OpenDiameter.Eap.PolicyTree
import OpenDiameter.Eap.AuthPacing
import OpenDiameter.Eap.AuthOutcome
import OpenDiameter.Eap.AuthEnding
import OpenDiameter.Eap.PeerQueue
import OpenDiameter.Eap.AuthQueue
import OpenDiameter.Eap.MessageQueues
import OpenDiameter.Eap.TlsMethod
import OpenDiameter.Eap.TlsSoundness
import OpenDiameter.Session.AuthMachine
import OpenDiameter.Session.AuthLifetime
import OpenDiameter.Foundation.Imperative
import OpenDiameter.Pana.Message
import OpenDiameter.Pana.Machine
import OpenDiameter.Pana.Client
import OpenDiameter.Pana.Paa
import OpenDiameter.Pana.Validation
import OpenDiameter.Pana.Sequence
import OpenDiameter.Pana.Protection
import OpenDiameter.Pana.Rejection
import OpenDiameter.Pana.Errors
import OpenDiameter.Pana.Answers
import OpenDiameter.Pana.Exchange
import OpenDiameter.Eap.PeerDuplicates
import OpenDiameter.Session.AcctClient
import OpenDiameter.Session.AcctPolicy
import OpenDiameter.Pana.Factory
import OpenDiameter.Pana.Dispatch
import OpenDiameter.Pana.ClientAuthorization
import OpenDiameter.Pana.PaaAuthorization
import OpenDiameter.Pana.Ledger
import OpenDiameter.Pana.Queues
import OpenDiameter.Session.AcctRecords
import OpenDiameter.Session.AcctServer
import OpenDiameter.Foundation.Registry
import OpenDiameter.Session.LocalHandler
import OpenDiameter.Session.LiveSessions
import OpenDiameter.Session.AnswerIds
import OpenDiameter.Session.AuthNegotiation
import OpenDiameter.Access.Authorization
import OpenDiameter.Access.Server
import OpenDiameter.Access.EapServer
import OpenDiameter.Access.NasreqServer
import OpenDiameter.Access.Grants
import OpenDiameter.Access.NasreqRounds
import OpenDiameter.Access.Client
import OpenDiameter.Access.Conversation
import OpenDiameter.Access.NasreqClient
import OpenDiameter.Access.NasreqAgreement
import OpenDiameter.Access.EapClient
import OpenDiameter.Access.EapRelay
import OpenDiameter.Foundation.Cursor
import OpenDiameter.Foundation.Reordering
import OpenDiameter.Parser.OrderInsensitivity
import OpenDiameter.Foundation.Grammar
import OpenDiameter.Parser.Grammars
import OpenDiameter.Parser.DiamUri
import OpenDiameter.Parser.Text
import OpenDiameter.Parser.FilterRule
import OpenDiameter.Access.Attributes
import OpenDiameter.Access.EapParsers
import OpenDiameter.Access.EapTransfer
import OpenDiameter.Eap.NakTypes
import OpenDiameter.Eap.NakWalk
import OpenDiameter.Eap.TypeCodec
import OpenDiameter.Parser.HeaderCodec
import OpenDiameter.Peer.Election
import OpenDiameter.Access.VectorAttributes
import OpenDiameter.Peer.CapabilitiesExchange
import OpenDiameter.Peer.CommonApplication
import OpenDiameter.Session.LifetimeAnswers
import OpenDiameter.Session.SessionIdText
import OpenDiameter.Foundation.Cells
import OpenDiameter.Pana.PrfPlus
import OpenDiameter.Eap.ArchieCodec
import OpenDiameter.Pana.Retransmission
import OpenDiameter.Parser.DictionaryDocument
import OpenDiameter.Parser.DictionaryLoading
import OpenDiameter.Parser.EncodeSpace
import OpenDiameter.Transport.Sender
import OpenDiameter.Transport.Delivery
import OpenDiameter.Foundation.Obligations
import OpenDiameter.Router.Originators
import OpenDiameter.Router.RouteRecords
import OpenDiameter.Parser.Coverage
import OpenDiameter.Parser.Lacking
