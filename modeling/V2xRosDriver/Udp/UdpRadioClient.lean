/-
# Udp.UdpRadioClient -- the UDP transport, `connect` and `close` step by step

Every `connect` that gets past name resolution makes a new `io_service`.  It and the
objects built on it are known here by the number of that `io_service`, its generation.
What the sockets send and receive is not part of this model.
-/
import V2xRosDriver.Radio.BaseRadioClient
import V2xRosDriver.Theory.Transition

namespace V2xRosDriver.Udp

set_option autoImplicit false

open V2xRosDriver.Radio
open V2xRosDriver.Theory.Transition

structure UdpRadioClient extends BaseRadioClient where
  running : Bool := false
  remoteUdpEp : Option (String × UInt16) := none
  generations : Nat := 0
  io : Option Nat := none
  outputStrand : Option Nat := none
  udpListener : Option Nat := none
  udpOutSocket : Option Nat := none
  work : Option Nat := none
  ioThread : Option Nat := none
  deriving DecidableEq

/-- Program points of `UdpRadioClient::connect`. -/
inductive ConnectPc where
  | guard
  | resolve
  | createIo
  | createStrand
  | resetListener
  | createListener
  | createSocket
  | createWork
  | startListener
  | startThread
  | setRunning
  | signal
  | leave
  deriving DecidableEq, Repr

/-- Program points of `UdpRadioClient::close`. -/
inductive ClosePc where
  | check
  | unsetRunning
  | resetWork
  | stopIo
  | joinThread
  | stopListener
  | resetSocket
  | signal
  deriving DecidableEq, Repr

namespace UdpRadioClient

/-- One step of `connect`; `succeeds` is the answer of the constructor or the resolver it
calls.  A listener that cannot be built makes `connect` return false, any other failure
leaves it as an exception. -/
def connectStep (endpoint : Endpoint) (c : UdpRadioClient) (pc : ConnectPc) (succeeds : Bool) :
    UdpRadioClient × Progress ConnectPc ConnectResult :=
  match pc with
  | .guard => if c.running then (c, .returned (.error .alreadyConnected)) else (c, .goes .resolve)
  | .resolve =>
      if succeeds then
        ({ c with remoteUdpEp := some (endpoint.remoteAddress, endpoint.remotePort) },
          .goes .createIo)
      else (c, .returned (.error .thrown))
  | .createIo =>
      ({ c with io := some c.generations, generations := c.generations + 1 }, .goes .createStrand)
  | .createStrand => ({ c with outputStrand := c.io }, .goes .resetListener)
  | .resetListener => ({ c with udpListener := none }, .goes .createListener)
  | .createListener =>
      if succeeds then ({ c with udpListener := c.io }, .goes .createSocket)
      else (c, .returned (.error .listenerFailed))
  | .createSocket =>
      if succeeds then ({ c with udpOutSocket := c.io }, .goes .createWork)
      else (c, .returned (.error .thrown))
  | .createWork => ({ c with work := c.io }, .goes .startListener)
  | .startListener => (c, .goes .startThread)
  | .startThread =>
      if succeeds then ({ c with ioThread := c.io }, .goes .setRunning)
      else (c, .returned (.error .thrown))
  | .setRunning => ({ c with running := true }, .goes .signal)
  | .signal =>
      ({ c with toBaseRadioClient := c.toBaseRadioClient.signal .onConnect }, .goes .leave)
  | .leave => (c, .returned (.ok ()))

/-- One step of `close`.  `io_->stop ()` makes the loop of the I/O thread return, so that the
join behind it ends. -/
def closeStep (c : UdpRadioClient) : ClosePc → UdpRadioClient × Progress ClosePc Unit
  | .check => if c.running then (c, .goes .unsetRunning) else (c, .returned ())
  | .unsetRunning => ({ c with running := false }, .goes .resetWork)
  | .resetWork => ({ c with work := none }, .goes .stopIo)
  | .stopIo => (c, .goes .joinThread)
  | .joinThread => (c, .goes .stopListener)
  | .stopListener => (c, .goes .resetSocket)
  | .resetSocket => ({ c with udpOutSocket := none }, .goes .signal)
  | .signal =>
      ({ c with toBaseRadioClient := c.toBaseRadioClient.signal .onDisconnect }, .returned ())

/-- `sendV2xMessage`: the datagram it posts to the strand, if there is one, and its result.  An
exception out of `post` is caught. -/
def sendV2xMessage (c : UdpRadioClient) (message : List UInt8) (posted : Bool) :
    Option (List UInt8) × Bool :=
  if ¬ c.running then (none, false)
  else if posted then (some message, true)
  else (none, false)

end UdpRadioClient

end V2xRosDriver.Udp
