import OpenDiameter.Framework.JobRuns
import OpenDiameter.Framework.QueueOrder
import OpenDiameter.Framework.Timers
import OpenDiameter.Framework.RemovalCount
import OpenDiameter.Parser.AvpScan
import OpenDiameter.Parser.EncodedContainers
import OpenDiameter.Parser.NestedGroups
import OpenDiameter.Parser.WireOrder
import OpenDiameter.Parser.VectorCopies
import OpenDiameter.Peer.AnswerIds
import OpenDiameter.Peer.ConnectAgreement
import OpenDiameter.Peer.OpenConnections
import OpenDiameter.Transport.RxChunking
import OpenDiameter.Transport.RxRecovery
import OpenDiameter.Utility.RbTreeRuns
import OpenDiameter.Framework.ProtectedMap
import OpenDiameter.Router.AnswerRouting
import OpenDiameter.Router.RequestCases
import OpenDiameter.Router.RequestOutcomes
import OpenDiameter.Router.RouteRecords
import OpenDiameter.Router.AnswerDelivery
import OpenDiameter.Router.Retransmission
import OpenDiameter.Foundation.Transitions
import OpenDiameter.Session.SessionDb
import OpenDiameter.Session.SessionDbMap
import OpenDiameter.Session.SessionDbRuns
import OpenDiameter.Session.SessionIdFreshness
import OpenDiameter.Session.SessionIdText
import OpenDiameter.Transport.TxCollector
import OpenDiameter.Session.AuthAnswers
import OpenDiameter.Session.AuthLifetimes
import OpenDiameter.Foundation.Ensures
import OpenDiameter.Pana.ActionEffects
import OpenDiameter.Pana.Authentication
import OpenDiameter.Pana.QueueAgreement
import OpenDiameter.Pana.RejectedMessages
import OpenDiameter.Pana.RequestNumbers
import OpenDiameter.Pana.Retransmission
import OpenDiameter.Pana.Closing
import OpenDiameter.Pana.EncoderBounds
import OpenDiameter.Pana.BufferPool
import OpenDiameter.Pana.PaaFactory
import OpenDiameter.Pana.PrfPlus
import OpenDiameter.Eap.AuthEffects
import OpenDiameter.Eap.Md5
import OpenDiameter.Eap.MethodSequences
import OpenDiameter.Eap.NakFreedom
import OpenDiameter.Eap.PolicyPaths
import OpenDiameter.Eap.Aes
import OpenDiameter.Eap.Archie
import OpenDiameter.Eap.ArchieFreshness
import OpenDiameter.Eap.ArchieHonestRun
import OpenDiameter.Eap.Cmac
import OpenDiameter.Eap.GpskKeys
import OpenDiameter.Eap.ArchieKeys
import OpenDiameter.Eap.ArchieReplay
import OpenDiameter.Eap.TypeRoundTrips
import OpenDiameter.Eap.Gpsk
import OpenDiameter.Eap.GpskAuthenticity
import OpenDiameter.Eap.GpskHonestRun
import OpenDiameter.Eap.GpskServed
import OpenDiameter.Eap.MethodVerdicts
import OpenDiameter.Eap.JobMultiplexor
import OpenDiameter.Session.AcctClient
import OpenDiameter.Session.AcctInterim
import OpenDiameter.Session.AcctStop
import OpenDiameter.Session.AcctServer
import OpenDiameter.Session.AcctServerAnswers
import OpenDiameter.CreditControl.Agreement
import OpenDiameter.CreditControl.AnswerOwnership
import OpenDiameter.CreditControl.Timers
import OpenDiameter.CreditControl.TxTimer
import OpenDiameter.DiameterEap.Records
import OpenDiameter.DiameterEap.RoundTrips
import OpenDiameter.DiameterEap.Server
import OpenDiameter.DiameterEap.Authorization
import OpenDiameter.DiameterEap.AnswerContents
import OpenDiameter.Parser.FailedAvp
import OpenDiameter.Parser.IdentityGrammar
import OpenDiameter.Parser.UriGrammar
import OpenDiameter.Parser.Utf8
import OpenDiameter.Parser.AvpIdentity
import OpenDiameter.Parser.ValueSafety
import OpenDiameter.Peer.Election
import OpenDiameter.Peer.Reconnection
import OpenDiameter.Peer.AnswerAcceptance
import OpenDiameter.Peer.CapabilityMatch
import OpenDiameter.Router.RouteServers
import OpenDiameter.Router.RouteApplications
import OpenDiameter.Router.Redirection
import OpenDiameter.Router.ErrorAnswers
import OpenDiameter.Parser.DictionaryCycles
import OpenDiameter.Eap.ParserBounds
import OpenDiameter.Eap.TlsFragments
