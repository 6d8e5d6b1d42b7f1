import MicroBng.Triton.Calls
import MicroBng.Triton.Conf
import MicroBng.L2tp.Peers
import MicroBng.L2tp.Auth
import MicroBng.L2tp.Rtimer
import MicroBng.L2tp.Account
import MicroBng.L2tp.RoundTrip
import MicroBng.L2tp.Bounds
import MicroBng.Radius.Reply
import MicroBng.Radius.Bounds
import MicroBng.Radius.StatAccm
import MicroBng.Sstp.Binding
import MicroBng.Sstp.Hdlc
import MicroBng.Pptp.Output
import MicroBng.Pptp.Stream
import MicroBng.Cli.Tcp
import MicroBng.Backup.File
import MicroBng.Ppp.Mppe
import MicroBng.Ppp.Gate
import MicroBng.Ppp.ChapTimeout
import MicroBng.Session.Limits
import MicroBng.Session.Teardown
import MicroBng.Session.Chain
import MicroBng.Ipoe.Range
import MicroBng.Ipoe.Weight
import MicroBng.Ipv6.Receive
import MicroBng.Ipv6.Reply
import MicroBng.Ppp.Giveup
import MicroBng.Ppp.Layers
import MicroBng.Shaper.Coa
import MicroBng.Radius.Slots
import MicroBng.Radius.Stranded
import MicroBng.Ipdb.Conserve
import MicroBng.Pppoe.Disc
import MicroBng.Pppoe.Account
import MicroBng.Pppoe.Cookie
import MicroBng.Pppoe.MacFilter
import MicroBng.Pppoe.Tags
import MicroBng.Radius.Select
import MicroBng.Radius.Lookup
import MicroBng.Radius.Reload
import MicroBng.Radius.FramedRoute
import MicroBng.Ppp.LcpBounds
import MicroBng.Ppp.Suggest
import MicroBng.Radius.Password
import MicroBng.Extra.ChapSecrets
import MicroBng.Ipoe.Sessions
