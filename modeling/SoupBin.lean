import SoupBin.FileStoreReopening
import SoupBin.PartialTransfers
import SoupBin.FileStoreGets
import SoupBin.CharacterTests
import SoupBin.LoginWildcards
import SoupBin.HeartbeatWindows
import SoupBin.ReconnectEpochs
import SoupBin.StopNotices
import SoupBin.LoginFields
import SoupBin.SocketClosing
import SoupBin.SocketQueue
import SoupBin.Receiving
import SoupBin.ClientFeed
import SoupBin.ClientTeardown
import SoupBin.ClientSessions
import SoupBin.ClientCloses
import SoupBin.Messages
import SoupBin.ServerAccepting
import SoupBin.ServerCourtesy
import SoupBin.ServerRejections
import SoupBin.ConnectionStates
import SoupBin.FailuresTold
import SoupBin.EndOfSession
import SoupBin.ClientBroadcast
import SoupBin.NullHandlers
import SoupBin.SocketArrivals
import SoupBin.ServerNumbers
import SoupBin.ClientNumbers
import SoupBin.ClientDrives
import SoupBin.ServerDrives
import SoupBin.SessionDelivery
