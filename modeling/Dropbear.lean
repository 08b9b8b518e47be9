import Dropbear.Auth.Answered
import Dropbear.Auth.Attempts
import Dropbear.Auth.Enumeration
import Dropbear.Auth.Factors
import Dropbear.Auth.InForce
import Dropbear.Auth.KeyLines
import Dropbear.Auth.KeyQueries
import Dropbear.Auth.Permissions
import Dropbear.Auth.VerifiedKey
import Dropbear.Buffer.Readfile
import Dropbear.Channels.Commands
import Dropbear.Channels.Credit
import Dropbear.Channels.Discipline
import Dropbear.Channels.Escapes
import Dropbear.Channels.HalfClose
import Dropbear.Channels.Integrity
import Dropbear.Channels.Pending
import Dropbear.Channels.Routing
import Dropbear.Channels.Signals
import Dropbear.Client.Askpass
import Dropbear.Client.Confirm
import Dropbear.Crypto.Dss
import Dropbear.Crypto.EccPoint
import Dropbear.Crypto.GenRsa
import Dropbear.Crypto.Random
import Dropbear.Daemon.Connections
import Dropbear.Forwarding.Iteration
import Dropbear.Kex.Derive
import Dropbear.Kex.Offer
import Dropbear.Kex.UserAlgos
import Dropbear.Packet.Accounting
import Dropbear.Packet.RoundTrip
import Dropbear.Signkey.Private
import Dropbear.Signkey.RoundTrip
import Dropbear.Signkey.Rsa
import Dropbear.Transport.FirstGuess
import Dropbear.Transport.Timers
