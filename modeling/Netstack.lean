import Netstack.Basic
import Netstack.State
import Netstack.Pool
import Netstack.Env
import Netstack.Ioctl
import Netstack.WaitSet
import Netstack.ReadStream
import Netstack.Handlers
import Netstack.WriteStream
import Netstack.Traffic
import Netstack.Datagram
import Netstack.Parse
import Netstack.Open
import Netstack.Dispatch
import Netstack.OpTable
import Netstack.Server
import Netstack.OpenReply
import Netstack.Control
import Netstack.Listen
import Netstack.TrafficRuns
import Netstack.QueueRuns
import Netstack.PoolRuns
