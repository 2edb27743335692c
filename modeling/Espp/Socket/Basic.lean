import Mathlib.Data.List.Basic

/-!
# The UDP socket

This file embeds `espp::UdpSocket` (`udp_socket.hpp`): the fields of the object, the
configurations its calls take, and the calls themselves as functions of the object and
of what the OS primitives they call return.

The OS is not part of this file. Each primitive the class calls (`bind`, the `Socket`
helpers that wrap `setsockopt`, `sendto`, `recvfrom`) is an input: whether it
succeeded, and for `recvfrom` the datagram it handed back. Time is not modelled; a
receive that times out is a failed `recvfrom`. Callbacks are caller code: a registered
callback is identified by a handle, and what it returns is chosen by the environment at
every invocation, which covers callbacks that keep state of their own.
-/

namespace Espp

/-- The payload of a datagram, or the contents of a byte buffer. -/
abbrev Bytes := List UInt8

namespace Socket

/-- `Socket::Info`: an IPv4 endpoint. Its cached `sockaddr_in` holds the same address
and port and is not kept separately. -/
structure Info where
  address : String
  port : Nat
  deriving DecidableEq, Repr

/-- `Socket::is_valid`, declared in `socket_common.hpp`: a descriptor is valid when the OS
returned one, so it is non-negative. -/
def isValid (socket : Int) : Bool := decide (0 ≤ socket)

end Socket

/-- A `receive_callback_fn` registered by the caller, identified by its handle. -/
structure ReceiveCallbackFn where
  handle : Nat
  deriving DecidableEq, Repr

/-- A `response_callback_fn` given to `send`, identified by its handle. -/
structure ResponseCallbackFn where
  handle : Nat
  deriving DecidableEq, Repr

/-- `UdpSocket::ReceiveConfig`, with the source's defaults. -/
structure ReceiveConfig where
  port : Nat
  bufferSize : Nat
  isMulticastEndpoint : Bool := false
  multicastGroup : String := ""
  onReceiveCallback : Option ReceiveCallbackFn := none
  deriving DecidableEq, Repr

/-- `UdpSocket::SendConfig`, with the source's defaults. The response timeout only
parametrises `set_receive_timeout`, whose outcome is an input, and is left out. -/
structure SendConfig where
  ipAddress : String
  port : Nat
  isMulticastEndpoint : Bool := false
  waitForResponse : Bool := false
  responseSize : Nat := 0
  onResponseCallback : Option ResponseCallbackFn := none
  deriving DecidableEq, Repr

/-- The endpoint a send configuration addresses. -/
def SendConfig.destination (config : SendConfig) : Socket.Info :=
  ⟨config.ipAddress, config.port⟩

/-- The worker `Task` through its interface: the buffer size that `start_receiving`
binds into `server_task_function`, and `is_started()`, true once `start()` has run. -/
structure Task where
  bufferSize : Nat
  started : Bool
  deriving DecidableEq, Repr

/-- The fields of a `UdpSocket` object. -/
structure UdpSocket where
  socket : Int
  task : Option Task
  serverReceiveCallback : Option ReceiveCallbackFn
  deriving DecidableEq, Repr

/-- A call a socket makes into the OS or into its worker task, in the order made. -/
inductive SocketCall
  | bind (port : Nat)
  | makeMulticast
  | addMulticastGroup (group : String)
  | setReceiveTimeout
  | sendto (destination : Socket.Info) (payload : Bytes)
  | recvfrom (maxNumBytes : Nat)
  | startTask (bufferSize : Nat)
  deriving DecidableEq, Repr

/-- What the OS primitives that `start_receiving` calls return. -/
structure StartReceivingOs where
  bindOk : Bool
  makeMulticastOk : Bool
  addMulticastGroupOk : Bool
  deriving DecidableEq, Repr

/-- What the OS primitives that `send` calls before its wait return. -/
structure SendOs where
  makeMulticastOk : Bool
  setReceiveTimeoutOk : Bool
  sendtoOk : Bool
  deriving DecidableEq, Repr

/-- Where a `send` call stands after its `sendto`: returned with a result, or blocked
waiting for the response. -/
inductive SendProgress
  | returned (result : Bool)
  | awaitingResponse
  deriving DecidableEq, Repr

/-- An observable action of one run of `server_task_function`. -/
inductive ServerAction
  /-- The `cv.wait_for(lk, 1ms)` back-off after a failed receive. -/
  | backoff
  /-- The registered callback invoked with data and sender; `reply` is what it returned. -/
  | callback (callback : ReceiveCallbackFn) (data : Bytes) (sender : Socket.Info)
      (reply : Option Bytes)
  /-- The reply sent back with `sendto`. -/
  | sendto (destination : Socket.Info) (payload : Bytes)
  deriving DecidableEq, Repr

namespace UdpSocket

/-- The object built by the constructor: `init()` stores the descriptor `socket(...)`
returned; a failure to enable address reuse is only logged. -/
def init (socket : Int) : UdpSocket := ⟨socket, none, none⟩

/-- `task_ && task_->is_started()`. -/
def receiving (s : UdpSocket) : Bool := s.task.any Task.started

theorem receiving_iff (s : UdpSocket) :
    s.receiving = true ↔ ∃ bufferSize, s.task = some ⟨bufferSize, true⟩ := by
  unfold receiving
  rcases s.task with _ | ⟨bufferSize, _ | _⟩ <;> simp

/-- `receive`: one `recvfrom` of at most `maxNumBytes` bytes. `recvfrom` is what the OS
handed back, the sender and the whole datagram, or `none` when it failed; a longer
datagram is cut to `maxNumBytes` bytes, as `recvfrom` cuts it. The result is the data
and the refreshed `remote_info`. -/
def receive (s : UdpSocket) (maxNumBytes : Nat) (recvfrom : Option (Socket.Info × Bytes)) :
    Option (Bytes × Socket.Info) :=
  if Socket.isValid s.socket then
    recvfrom.map fun received => (received.2.take maxNumBytes, received.1)
  else none

/-- `start_receiving`: the result, the object after the call, and the calls it made.
`task_config` is only handed on to `Task::make_unique`; of it the model keeps the
buffer size bound into the task function. -/
def startReceiving (s : UdpSocket) (receiveConfig : ReceiveConfig) (os : StartReceivingOs) :
    Bool × UdpSocket × List SocketCall :=
  if s.receiving then (false, s, [])
  else if !Socket.isValid s.socket then (false, s, [])
  else
    let s := { s with serverReceiveCallback := receiveConfig.onReceiveCallback }
    let bind := SocketCall.bind receiveConfig.port
    let join := [SocketCall.makeMulticast, .addMulticastGroup receiveConfig.multicastGroup]
    if !os.bindOk then (false, s, [bind])
    else if receiveConfig.isMulticastEndpoint && !os.makeMulticastOk then
      (false, s, [bind, .makeMulticast])
    else if receiveConfig.isMulticastEndpoint && !os.addMulticastGroupOk then
      (false, s, bind :: join)
    else
      (true, { s with task := some ⟨receiveConfig.bufferSize, true⟩ },
        bind :: ((if receiveConfig.isMulticastEndpoint then join else []) ++
          [.startTask receiveConfig.bufferSize]))

/-- `send` up to and including its `sendto`, and the checks that decide whether it then
waits for a response. -/
def sendRequest (s : UdpSocket) (data : Bytes) (config : SendConfig) (os : SendOs) :
    SendProgress × List SocketCall :=
  if !Socket.isValid s.socket then (.returned false, [])
  else
    let multicast := if config.isMulticastEndpoint then [SocketCall.makeMulticast] else []
    if config.isMulticastEndpoint && !os.makeMulticastOk then (.returned false, multicast)
    else
      let timeout := multicast ++ [.setReceiveTimeout]
      if !os.setReceiveTimeoutOk then (.returned false, timeout)
      else
        let calls := timeout ++ [.sendto config.destination data]
        if !os.sendtoOk then (.returned false, calls)
        else if !config.waitForResponse then (.returned true, calls)
        else if config.responseSize = 0 then (.returned true, calls)
        else (.awaitingResponse, calls)

/-- The wait of `send` for its response: one `receive` of at most `response_size` bytes
into `server_info`. The result, and the callback invoked with the data, if one was given. -/
def awaitResponse (s : UdpSocket) (config : SendConfig)
    (recvfrom : Option (Socket.Info × Bytes)) : Bool × Option (ResponseCallbackFn × Bytes) :=
  match s.receive config.responseSize recvfrom with
  | none => (false, none)
  | some (data, _) => (true, config.onResponseCallback.map fun callback => (callback, data))

/-- `send` as one call, for a caller that sees it from outside: the wait, if any, gets
`recvfrom` from the OS. -/
def send (s : UdpSocket) (data : Bytes) (config : SendConfig) (os : SendOs)
    (recvfrom : Option (Socket.Info × Bytes)) : Bool × List SocketCall :=
  match s.sendRequest data config os with
  | (.returned result, calls) => (result, calls)
  | (.awaitingResponse, calls) =>
      ((s.awaitResponse config recvfrom).1, calls ++ [.recvfrom config.responseSize])

/-- `server_task_function` bound to `bufferSize`: `recvfrom` is what the OS handed back
and `reply` what the registered callback returns if it is invoked. -/
def serverTaskFunction (s : UdpSocket) (bufferSize : Nat)
    (recvfrom : Option (Socket.Info × Bytes)) (reply : Option Bytes) : List ServerAction :=
  match s.receive bufferSize recvfrom with
  | none => [.backoff]
  | some (data, sender) =>
      match s.serverReceiveCallback with
      | none => []
      | some callback =>
          .callback callback data sender reply :: reply.toList.map (.sendto sender)

@[simp]
theorem receive_of_valid {s : UdpSocket} (valid : Socket.isValid s.socket = true)
    (maxNumBytes : Nat) (recvfrom : Option (Socket.Info × Bytes)) :
    s.receive maxNumBytes recvfrom =
      recvfrom.map fun received => (received.2.take maxNumBytes, received.1) := by
  simp [receive, valid]

@[simp]
theorem receive_none (s : UdpSocket) (maxNumBytes : Nat) : s.receive maxNumBytes none = none := by
  simp [receive]

/-- A receive returns something only on a valid socket from a successful `recvfrom`, and
then it is the datagram cut to the bound, with its sender. -/
theorem receive_eq_some {s : UdpSocket} {maxNumBytes : Nat}
    {recvfrom : Option (Socket.Info × Bytes)} {data : Bytes} {sender : Socket.Info}
    (received : s.receive maxNumBytes recvfrom = some (data, sender)) :
    Socket.isValid s.socket = true ∧
      ∃ payload, recvfrom = some (sender, payload) ∧ data = payload.take maxNumBytes := by
  unfold receive at received
  split at received
  · rename_i valid
    obtain ⟨⟨sender', payload⟩, rfl, same⟩ := Option.map_eq_some'.mp received
    cases same
    exact ⟨valid, payload, rfl, rfl⟩
  · cases received

end UdpSocket

end Espp
