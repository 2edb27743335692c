import Espp.Socket.Basic
import Mathlib.Logic.Function.Basic

/-!
# Sockets on a network

This file puts `UdpSocket` objects on a network, to state what the socket layer
guarantees across every interleaving of the parties' steps. A world has hosts, each a
`UdpSocket` object with the endpoint its descriptor is bound to, the kernel's receive
queue of that descriptor and the state of its owner's thread; the datagrams in flight;
and a log of everything observable.

The network may deliver the datagrams in flight in any order, deliver one several times
or drop it; any party may send any datagram from its endpoint at any time. The socket
steps run the functions of `Espp.Socket.Basic`: a `send` is split at its `sendto`,
since other steps interleave with its wait, and the worker of a receiving socket runs
`server_task_function` at any time, concurrently with its owner's calls. Both read the
same receive queue, as the two threads share one descriptor, with no lock between them.
An iteration of the worker is split at its reply `sendto` as well: the receive and the
callback, which touches no shared state, are one step, and the `sendto`, which may fail,
is another, so other steps can come between them.
-/

namespace Espp

namespace Network

/-- A datagram on the network. -/
structure Datagram where
  source : Socket.Info
  destination : Socket.Info
  payload : Bytes
  deriving DecidableEq, Repr

/-- The receive that read a datagram off a socket's queue. -/
inductive Reader
  /-- An iteration of the worker's `server_task_function`. -/
  | server
  /-- The wait of a `send` for its response. -/
  | response
  /-- A direct `receive` call of the owner. -/
  | receive
  deriving DecidableEq, Repr

/-- The owner's thread: between calls, or inside a `send` waiting for its response. -/
inductive Foreground
  | idle
  | awaitingResponse (config : SendConfig)
  deriving DecidableEq, Repr

/-- The worker's thread: between iterations of `server_task_function`, or inside one
whose callback returned a reply, before the `sendto` of that reply to `destination`. -/
inductive Worker
  | idle
  | replying (destination : Socket.Info) (payload : Bytes)
  deriving DecidableEq, Repr

/-- A host: its socket object, the endpoint of its descriptor, the kernel's receive
queue of the descriptor (oldest first, as sender and payload), its owner's thread and its
worker's thread. -/
structure Host where
  socket : UdpSocket
  endpoint : Socket.Info
  queue : List (Socket.Info × Bytes)
  foreground : Foreground
  worker : Worker
  deriving DecidableEq, Repr

/-- What can be observed of a run. -/
inductive Event
  /-- A successful `sendto`. -/
  | sent (datagram : Datagram)
  /-- The network put a datagram on host `host`'s receive queue. -/
  | delivered (host : Nat) (datagram : Datagram)
  /-- A successful `recvfrom` on host `host` took the oldest queued datagram. -/
  | consumed (host : Nat) (reader : Reader) (sender : Socket.Info) (payload : Bytes)
  /-- The worker of host `host` invoked its registered callback; `reply` is what it returned. -/
  | receiveCallback (host : Nat) (callback : ReceiveCallbackFn) (data : Bytes)
      (sender : Socket.Info) (reply : Option Bytes)
  /-- A `send` of host `host` handed `data` to `config.on_response_callback`; `sender` is
  the `server_info` its receive refreshed. -/
  | responseCallback (host : Nat) (config : SendConfig) (sender : Socket.Info) (data : Bytes)
  deriving DecidableEq, Repr

/-- The whole system. -/
structure World where
  hosts : Nat → Host
  inFlight : List Datagram
  log : List Event

namespace World

/-- Replace host `i`. -/
def setHost (w : World) (i : Nat) (host : Host) : World :=
  { w with hosts := Function.update w.hosts i host }

/-- A successful `sendto` by host `i`: the datagram goes into flight. -/
def transmit (w : World) (i : Nat) (destination : Socket.Info) (payload : Bytes) : World :=
  { w with
    inFlight := w.inFlight ++ [⟨(w.hosts i).endpoint, destination, payload⟩]
    log := w.log ++ [.sent ⟨(w.hosts i).endpoint, destination, payload⟩] }

/-- The network puts `datagram`, the `k`-th in flight, on host `j`'s receive queue;
with `keep` a copy stays in flight. -/
def deliver (w : World) (k : Nat) (datagram : Datagram) (j : Nat) (keep : Bool) : World :=
  { w.setHost j { w.hosts j with
      queue := (w.hosts j).queue ++ [(datagram.source, datagram.payload)] } with
    inFlight := if keep then w.inFlight else w.inFlight.eraseIdx k
    log := w.log ++ [.delivered j datagram] }

/-- The network loses the `k`-th datagram in flight. -/
def drop (w : World) (k : Nat) : World :=
  { w with inFlight := w.inFlight.eraseIdx k }

/-- `reader` takes the oldest datagram off host `i`'s queue. -/
def consume (w : World) (i : Nat) (reader : Reader) (sender : Socket.Info) (payload : Bytes) :
    World :=
  { w.setHost i { w.hosts i with queue := (w.hosts i).queue.tail } with
    log := w.log ++ [.consumed i reader sender payload] }

/-- Record an event that touches neither a queue nor the network. -/
def note (w : World) (event : Event) : World :=
  { w with log := w.log ++ [event] }

/-- Set the state of host `i`'s owner thread. -/
def setForeground (w : World) (i : Nat) (foreground : Foreground) : World :=
  w.setHost i { w.hosts i with foreground := foreground }

/-- Set the state of host `i`'s worker thread. -/
def setWorker (w : World) (i : Nat) (worker : Worker) : World :=
  w.setHost i { w.hosts i with worker := worker }

/-- What `recvfrom` on host `i` hands back: the oldest queued datagram when the call
succeeds (`ok`), nothing when it fails or times out. -/
def recvfromOn (w : World) (i : Nat) (ok : Bool) : Option (Socket.Info × Bytes) :=
  if ok then (w.hosts i).queue.head? else none

/-- A `receive` of at most `maxNumBytes` bytes on host `i` by `reader`: its result, and
the world after it, where the datagram a successful `recvfrom` handed back is off the
queue. -/
def receiveOn (w : World) (i : Nat) (reader : Reader) (maxNumBytes : Nat) (ok : Bool) :
    Option (Bytes × Socket.Info) × World :=
  match (w.hosts i).socket.receive maxNumBytes (w.recvfromOn i ok), w.recvfromOn i ok with
  | some result, some (sender, payload) => (some result, w.consume i reader sender payload)
  | _, _ => (none, w)

/-- The `sendto`s among the calls a socket made, all successful. -/
def transmitAll (w : World) (i : Nat) : List SocketCall → World
  | [] => w
  | .sendto destination payload :: calls => (w.transmit i destination payload).transmitAll i calls
  | _ :: calls => w.transmitAll i calls

/-- The actions of one run of the worker of host `i` up to its reply: the reply `sendto`
is left to the worker's next step, `serverReplyAt`. -/
def perform (w : World) (i : Nat) : List ServerAction → World
  | [] => w
  | .backoff :: actions => w.perform i actions
  | .callback callback data sender reply :: actions =>
      (w.note (.receiveCallback i callback data sender reply)).perform i actions
  | .sendto destination payload :: actions =>
      (w.setWorker i (.replying destination payload)).perform i actions

/-- `start_receiving` on host `i`; a successful `bind` moves the descriptor to the port
it bound. -/
def startReceivingAt (w : World) (i : Nat) (receiveConfig : ReceiveConfig)
    (os : StartReceivingOs) : World :=
  let host := w.hosts i
  let result := host.socket.startReceiving receiveConfig os
  let bound := os.bindOk && decide (SocketCall.bind receiveConfig.port ∈ result.2.2)
  w.setHost i { host with
    socket := result.2.1
    endpoint := if bound then { host.endpoint with port := receiveConfig.port } else host.endpoint }

/-- The first part of a `send` on host `i`, up to its `sendto`; the owner then waits for
the response or has returned. -/
def sendRequestAt (w : World) (i : Nat) (data : Bytes) (config : SendConfig) (os : SendOs) :
    World :=
  let result := (w.hosts i).socket.sendRequest data config os
  let w := if os.sendtoOk then w.transmitAll i result.2 else w
  match result.1 with
  | .awaitingResponse => w.setForeground i (.awaitingResponse config)
  | .returned _ => w

/-- The wait of a `send` on host `i`: one receive of at most `response_size` bytes, then
the response callback if one was given and the receive succeeded. -/
def awaitResponseAt (w : World) (i : Nat) (config : SendConfig) (ok : Bool) : World :=
  let w' := (w.receiveOn i .response config.responseSize ok).2.setForeground i .idle
  match ((w.hosts i).socket.awaitResponse config (w.recvfromOn i ok)).2,
      (w.receiveOn i .response config.responseSize ok).1 with
  | some (_, data), some (_, sender) => w'.note (.responseCallback i config sender data)
  | _, _ => w'

/-- A direct `receive` call on host `i`. -/
def receiveAt (w : World) (i : Nat) (maxNumBytes : Nat) (ok : Bool) : World :=
  (w.receiveOn i .receive maxNumBytes ok).2

/-- One run of `server_task_function` by the worker of host `i`, with the buffer size
bound into its task; `reply` is what the callback returns if invoked. -/
def serverIterationAt (w : World) (i : Nat) (ok : Bool) (reply : Option Bytes) : World :=
  match (w.hosts i).socket.task with
  | none => w
  | some task =>
      let actions := (w.hosts i).socket.serverTaskFunction task.bufferSize (w.recvfromOn i ok) reply
      (w.receiveOn i .server task.bufferSize ok).2.perform i actions

/-- The reply `sendto` of the worker of host `i`, which ends its iteration: the datagram goes
out when the `sendto` succeeds (`ok`); a failed one is only logged. -/
def serverReplyAt (w : World) (i : Nat) (ok : Bool) : World :=
  match (w.hosts i).worker with
  | .idle => w
  | .replying destination payload =>
      (if ok then w.transmit i destination payload else w).setWorker i .idle

end World

/-- One step of the system: a network step, a datagram sent by any party, a call of a
host's owner, or an iteration of a host's worker. -/
inductive Step : World → World → Prop
  | transmit (w : World) (i : Nat) (destination : Socket.Info) (payload : Bytes) :
      Step w (w.transmit i destination payload)
  | deliver (w : World) (k j : Nat) (datagram : Datagram) (keep : Bool)
      (inFlight : w.inFlight[k]? = some datagram)
      (addressed : (w.hosts j).endpoint = datagram.destination) :
      Step w (w.deliver k datagram j keep)
  | drop (w : World) (k : Nat) : Step w (w.drop k)
  | startReceiving (w : World) (i : Nat) (receiveConfig : ReceiveConfig) (os : StartReceivingOs)
      (idle : (w.hosts i).foreground = .idle) :
      Step w (w.startReceivingAt i receiveConfig os)
  | sendRequest (w : World) (i : Nat) (data : Bytes) (config : SendConfig) (os : SendOs)
      (idle : (w.hosts i).foreground = .idle) :
      Step w (w.sendRequestAt i data config os)
  | awaitResponse (w : World) (i : Nat) (config : SendConfig) (ok : Bool)
      (awaiting : (w.hosts i).foreground = .awaitingResponse config) :
      Step w (w.awaitResponseAt i config ok)
  | receive (w : World) (i : Nat) (maxNumBytes : Nat) (ok : Bool)
      (idle : (w.hosts i).foreground = .idle) :
      Step w (w.receiveAt i maxNumBytes ok)
  | serverIteration (w : World) (i : Nat) (ok : Bool) (reply : Option Bytes)
      (started : (w.hosts i).socket.receiving = true) (idle : (w.hosts i).worker = .idle) :
      Step w (w.serverIterationAt i ok reply)
  | serverReply (w : World) (i : Nat) (ok : Bool) (destination : Socket.Info) (payload : Bytes)
      (replying : (w.hosts i).worker = .replying destination payload) :
      Step w (w.serverReplyAt i ok)

/-- A world before anything happened: nothing in flight, nothing logged, every queue
empty and every thread between calls. The sockets and endpoints are arbitrary. -/
def Initial (w : World) : Prop :=
  w.inFlight = [] ∧ w.log = [] ∧ ∀ i, (w.hosts i).queue = [] ∧
    (w.hosts i).foreground = .idle ∧ (w.hosts i).worker = .idle

/-- The worlds some run reaches. -/
inductive Reachable : World → Prop
  | initial {w : World} (initial : Initial w) : Reachable w
  | step {w w' : World} (reachable : Reachable w) (step : Step w w') : Reachable w'

namespace World

@[simp]
theorem setHost_hosts (w : World) (i : Nat) (host : Host) (j : Nat) :
    (w.setHost i host).hosts j = if j = i then host else w.hosts j := by
  simp [setHost, Function.update_apply]

@[simp] theorem setHost_log (w : World) (i : Nat) (host : Host) : (w.setHost i host).log = w.log := rfl

@[simp]
theorem setHost_inFlight (w : World) (i : Nat) (host : Host) :
    (w.setHost i host).inFlight = w.inFlight := rfl

@[simp] theorem transmit_hosts (w : World) (i : Nat) (destination : Socket.Info) (payload : Bytes) :
    (w.transmit i destination payload).hosts = w.hosts := rfl

@[simp] theorem transmit_log (w : World) (i : Nat) (destination : Socket.Info) (payload : Bytes) :
    (w.transmit i destination payload).log =
      w.log ++ [.sent ⟨(w.hosts i).endpoint, destination, payload⟩] := rfl

@[simp] theorem transmit_inFlight (w : World) (i : Nat) (destination : Socket.Info)
    (payload : Bytes) :
    (w.transmit i destination payload).inFlight =
      w.inFlight ++ [⟨(w.hosts i).endpoint, destination, payload⟩] := rfl

@[simp] theorem note_hosts (w : World) (event : Event) : (w.note event).hosts = w.hosts := rfl

@[simp] theorem note_log (w : World) (event : Event) : (w.note event).log = w.log ++ [event] := rfl

@[simp] theorem note_inFlight (w : World) (event : Event) : (w.note event).inFlight = w.inFlight :=
  rfl

@[simp] theorem consume_log (w : World) (i : Nat) (reader : Reader) (sender : Socket.Info)
    (payload : Bytes) :
    (w.consume i reader sender payload).log = w.log ++ [.consumed i reader sender payload] := rfl

@[simp] theorem consume_inFlight (w : World) (i : Nat) (reader : Reader) (sender : Socket.Info)
    (payload : Bytes) : (w.consume i reader sender payload).inFlight = w.inFlight := rfl

@[simp] theorem consume_hosts (w : World) (i : Nat) (reader : Reader) (sender : Socket.Info)
    (payload : Bytes) (j : Nat) :
    (w.consume i reader sender payload).hosts j =
      if j = i then { w.hosts i with queue := (w.hosts i).queue.tail } else w.hosts j := by
  simp [consume]

@[simp] theorem setForeground_log (w : World) (i : Nat) (foreground : Foreground) :
    (w.setForeground i foreground).log = w.log := rfl

@[simp] theorem setForeground_inFlight (w : World) (i : Nat) (foreground : Foreground) :
    (w.setForeground i foreground).inFlight = w.inFlight := rfl

@[simp] theorem setForeground_queue (w : World) (i : Nat) (foreground : Foreground) (j : Nat) :
    ((w.setForeground i foreground).hosts j).queue = (w.hosts j).queue := by
  by_cases same : j = i <;> simp [setForeground, same]

@[simp] theorem setWorker_log (w : World) (i : Nat) (worker : Worker) :
    (w.setWorker i worker).log = w.log := rfl

@[simp] theorem setWorker_inFlight (w : World) (i : Nat) (worker : Worker) :
    (w.setWorker i worker).inFlight = w.inFlight := rfl

@[simp] theorem setWorker_hosts (w : World) (i : Nat) (worker : Worker) (j : Nat) :
    (w.setWorker i worker).hosts j =
      if j = i then { w.hosts i with worker := worker } else w.hosts j := by
  simp [setWorker]

/-- A receive returns something only when a valid socket's `recvfrom` succeeded on a
non-empty queue; the oldest datagram is then off the queue, and the result is that
datagram cut to the bound, with its sender. -/
theorem receiveOn_eq_some {w : World} {i : Nat} {reader : Reader} {maxNumBytes : Nat}
    {ok : Bool} {data : Bytes} {sender : Socket.Info}
    (received : (w.receiveOn i reader maxNumBytes ok).1 = some (data, sender)) :
    ∃ payload rest, (w.hosts i).queue = (sender, payload) :: rest ∧
      data = payload.take maxNumBytes ∧
      (w.receiveOn i reader maxNumBytes ok).2 = w.consume i reader sender payload := by
  unfold receiveOn at received ⊢
  cases ok with
  | false => simp [recvfromOn] at received
  | true =>
      cases queue : (w.hosts i).queue with
      | nil => simp [recvfromOn, queue] at received
      | cons head rest =>
          obtain ⟨sender', payload⟩ := head
          by_cases valid : Socket.isValid (w.hosts i).socket.socket = true
          · simp only [recvfromOn, queue, List.head?_cons, if_true,
              UdpSocket.receive_of_valid valid, Option.map_some', Option.some.injEq,
              Prod.mk.injEq] at received ⊢
            obtain ⟨rfl, rfl⟩ := received
            exact ⟨payload, rest, rfl, rfl, rfl⟩
          · simp [recvfromOn, queue, UdpSocket.receive, valid] at received

/-- Either a receive took nothing and left the world as it was, or it read the oldest
datagram of the queue. -/
theorem receiveOn_cases (w : World) (i : Nat) (reader : Reader) (maxNumBytes : Nat) (ok : Bool) :
    (w.receiveOn i reader maxNumBytes ok) = (none, w) ∨
      ∃ data sender payload rest, (w.hosts i).queue = (sender, payload) :: rest ∧
        data = payload.take maxNumBytes ∧
        w.receiveOn i reader maxNumBytes ok = (some (data, sender), w.consume i reader sender payload) := by
  cases result : (w.receiveOn i reader maxNumBytes ok).1 with
  | none =>
      left
      unfold receiveOn at result ⊢
      split
      · simp_all
      · rfl
  | some received =>
      right
      obtain ⟨payload, rest, queue, data, next⟩ := receiveOn_eq_some result
      exact ⟨received.1, received.2, payload, rest, queue, data, Prod.ext result next⟩

end World

end Network

end Espp
