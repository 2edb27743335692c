import Espp.Socket.Delivery
import Espp.Socket.Lifecycle

/-!
# What the worker of a receiving socket does on the network

The worker that `start_receiving` starts runs `server_task_function` again and again, while
every other party sends, the network reorders and drops, and the owner's own calls read the
same descriptor. This file proves, over every run of the network model:

* each datagram the worker reads goes once, in the order read and cut to the buffer size,
  to the callback its successful `start_receiving` registered, so the callback gets
  delivered datagrams with the endpoints that sent them;
* a worker between its callback and the reply `sendto` is about to send what its latest
  callback returned, to that callback's sender, whatever steps came in between.

Two facts carry the proofs. Once a socket runs a worker, no step changes its object, as
`start_receiving` returns false before it touches anything. And each iteration of the
worker is what `server_task_function` makes of the datagram it read.
-/

namespace Espp

namespace Network

/-- A callback invocation of a worker: the callback, the data and sender it was given, and
what it returned. -/
structure Invocation where
  callback : ReceiveCallbackFn
  data : Bytes
  sender : Socket.Info
  reply : Option Bytes
  deriving DecidableEq, Repr

/-- What an invocation was given: the callback, the data and the sender. -/
def Invocation.given (invocation : Invocation) : ReceiveCallbackFn × Bytes × Socket.Info :=
  (invocation.callback, invocation.data, invocation.sender)

/-- The callback invocations of host `j`'s worker, oldest first. -/
def invocations (j : Nat) (log : List Event) : List Invocation :=
  log.filterMap fun
    | .receiveCallback host callback data sender reply =>
        if host = j then some ⟨callback, data, sender, reply⟩ else none
    | _ => none

/-- The datagrams host `j`'s worker read off its queue, oldest first, as sender and payload. -/
def serverReads (j : Nat) (log : List Event) : List (Socket.Info × Bytes) :=
  log.filterMap fun
    | .consumed host .server sender payload => if host = j then some (sender, payload) else none
    | _ => none

/-- What the worker of `s` hands its callback for the datagrams it read: each cut to the
buffer size, with its sender, when a callback is registered. -/
def dispatched (s : UdpSocket) (bufferSize : Nat) (reads : List (Socket.Info × Bytes)) :
    List (ReceiveCallbackFn × Bytes × Socket.Info) :=
  reads.filterMap fun read =>
    s.serverReceiveCallback.map fun callback => (callback, read.2.take bufferSize, read.1)

@[simp]
theorem invocations_append (j : Nat) (first second : List Event) :
    invocations j (first ++ second) = invocations j first ++ invocations j second :=
  List.filterMap_append _ _ _

@[simp]
theorem serverReads_append (j : Nat) (first second : List Event) :
    serverReads j (first ++ second) = serverReads j first ++ serverReads j second :=
  List.filterMap_append _ _ _

@[simp]
theorem dispatched_append (s : UdpSocket) (bufferSize : Nat)
    (first second : List (Socket.Info × Bytes)) :
    dispatched s bufferSize (first ++ second) =
      dispatched s bufferSize first ++ dispatched s bufferSize second :=
  List.filterMap_append _ _ _

@[simp] theorem invocations_nil (j : Nat) : invocations j [] = [] := rfl

@[simp] theorem serverReads_nil (j : Nat) : serverReads j [] = [] := rfl

@[simp] theorem dispatched_nil (s : UdpSocket) (bufferSize : Nat) : dispatched s bufferSize [] = [] :=
  rfl

@[simp]
theorem serverReads_cons_consumed (j host : Nat) (reader : Reader) (sender : Socket.Info)
    (payload : Bytes) (rest : List Event) :
    serverReads j (.consumed host reader sender payload :: rest) =
      (if reader = .server ∧ host = j then [(sender, payload)] else []) ++ serverReads j rest := by
  cases reader <;> by_cases same : host = j <;> simp [serverReads, same]

@[simp]
theorem invocations_cons_consumed (j host : Nat) (reader : Reader) (sender : Socket.Info)
    (payload : Bytes) (rest : List Event) :
    invocations j (.consumed host reader sender payload :: rest) = invocations j rest := rfl

@[simp]
theorem invocations_cons_receiveCallback (j host : Nat) (callback : ReceiveCallbackFn)
    (data : Bytes) (sender : Socket.Info) (reply : Option Bytes) (rest : List Event) :
    invocations j (.receiveCallback host callback data sender reply :: rest) =
      (if host = j then [⟨callback, data, sender, reply⟩] else []) ++ invocations j rest := by
  by_cases same : host = j <;> simp [invocations, same]

@[simp]
theorem serverReads_cons_receiveCallback (j host : Nat) (callback : ReceiveCallbackFn)
    (data : Bytes) (sender : Socket.Info) (reply : Option Bytes) (rest : List Event) :
    serverReads j (.receiveCallback host callback data sender reply :: rest) =
      serverReads j rest := rfl

theorem mem_invocations {j : Nat} {log : List Event} {callback : ReceiveCallbackFn}
    {data : Bytes} {sender : Socket.Info} {reply : Option Bytes}
    (called : Event.receiveCallback j callback data sender reply ∈ log) :
    ⟨callback, data, sender, reply⟩ ∈ invocations j log :=
  List.mem_filterMap.mpr ⟨_, called, by simp⟩

/-- A worker's read is a read of its host's queue. -/
theorem readFrom_of_serverReads {j : Nat} {log : List Event} {read : Socket.Info × Bytes}
    (mem : read ∈ serverReads j log) : (.server, read.1, read.2) ∈ readFrom j log := by
  obtain ⟨event, logged, found⟩ := List.mem_filterMap.mp mem
  refine List.mem_filterMap.mpr ⟨event, logged, ?_⟩
  match event, found with
  | .consumed host .server sender payload, found =>
      by_cases same : host = j
      · subst same
        simp only [if_true, Option.some.injEq] at found
        simp [readFrom, ← found]
      · simp [same] at found

/-- The invariant of the worker side of the network model. -/
structure Serving (w : World) : Prop where
  /-- A host that runs no worker has neither read nor invoked a callback. -/
  idle : ∀ j, (w.hosts j).socket.receiving = false →
    serverReads j w.log = [] ∧ invocations j w.log = []
  /-- The callback invocations of a running worker are what it hands its callback for the
  datagrams it read. -/
  reads : ∀ j bufferSize, (w.hosts j).socket.task = some ⟨bufferSize, true⟩ →
    (invocations j w.log).map Invocation.given =
      dispatched (w.hosts j).socket bufferSize (serverReads j w.log)
  /-- A worker about to reply sends what its latest callback returned, to its sender. -/
  pending : ∀ j destination payload, (w.hosts j).worker = .replying destination payload →
    ∃ callback data,
      (invocations j w.log).getLast? = some ⟨callback, data, destination, some payload⟩

/-- `w'` comes from `w` by logging events none of which is a read or a callback invocation
of a worker, without changing a socket object, and with each worker as it was or idle. -/
structure Quiet (w w' : World) : Prop where
  log : ∃ extra, w'.log = w.log ++ extra ∧ ∀ j, serverReads j extra = [] ∧ invocations j extra = []
  hosts : ∀ j, (w'.hosts j).socket = (w.hosts j).socket ∧
    ((w'.hosts j).worker = (w.hosts j).worker ∨ (w'.hosts j).worker = .idle)

namespace Quiet

/-- A step that logs nothing, changes no socket object and no worker. -/
theorem of_log {w w' : World} (log : w'.log = w.log)
    (hosts : ∀ j, (w'.hosts j).socket = (w.hosts j).socket ∧
      (w'.hosts j).worker = (w.hosts j).worker) : Quiet w w' :=
  ⟨⟨[], by rw [log, List.append_nil], fun _ => ⟨rfl, rfl⟩⟩,
    fun j => ⟨(hosts j).1, .inl (hosts j).2⟩⟩

/-- Replacing a host by one with the same socket object and worker. -/
theorem setHost_hosts {w : World} {i : Nat} {host : Host}
    (socket : host.socket = (w.hosts i).socket) (worker : host.worker = (w.hosts i).worker)
    (j : Nat) : ((w.setHost i host).hosts j).socket = (w.hosts j).socket ∧
      ((w.setHost i host).hosts j).worker = (w.hosts j).worker := by
  rw [World.setHost_hosts]
  split
  · next same => exact same ▸ ⟨socket, worker⟩
  · exact ⟨rfl, rfl⟩

theorem refl (w : World) : Quiet w w := of_log rfl fun _ => ⟨rfl, rfl⟩

theorem trans {w w' w'' : World} (first : Quiet w w') (second : Quiet w' w'') : Quiet w w'' := by
  obtain ⟨extra, log, silent⟩ := first.log
  obtain ⟨extra', log', silent'⟩ := second.log
  refine ⟨⟨extra ++ extra', by rw [log', log, List.append_assoc], fun j => ?_⟩, fun j => ?_⟩
  · simp [(silent j).1, (silent j).2, (silent' j).1, (silent' j).2]
  · refine ⟨(second.hosts j).1.trans (first.hosts j).1, ?_⟩
    rcases (second.hosts j).2 with same | idle
    · exact same ▸ (first.hosts j).2
    · exact .inr idle

/-- Logging one event that is neither a read nor a callback invocation of a worker, leaving
every socket object and worker alone. -/
theorem of_event {w w' : World} {event : Event} (log : w'.log = w.log ++ [event])
    (silent : ∀ j, serverReads j [event] = [] ∧ invocations j [event] = [])
    (hosts : ∀ j, (w'.hosts j).socket = (w.hosts j).socket ∧
      (w'.hosts j).worker = (w.hosts j).worker) : Quiet w w' :=
  ⟨⟨[event], log, silent⟩, fun j => ⟨(hosts j).1, .inl (hosts j).2⟩⟩

theorem transmit (w : World) (i : Nat) (destination : Socket.Info) (payload : Bytes) :
    Quiet w (w.transmit i destination payload) :=
  of_event rfl (fun _ => ⟨rfl, rfl⟩) fun _ => ⟨rfl, rfl⟩

theorem deliver (w : World) (k : Nat) (datagram : Datagram) (j : Nat) (keep : Bool) :
    Quiet w (w.deliver k datagram j keep) :=
  of_event rfl (fun _ => ⟨rfl, rfl⟩) (setHost_hosts rfl rfl)

theorem drop (w : World) (k : Nat) : Quiet w (w.drop k) :=
  of_log rfl fun _ => ⟨rfl, rfl⟩

/-- A read by the owner's thread. -/
theorem consume (w : World) (i : Nat) {reader : Reader} (owner : reader ≠ .server)
    (sender : Socket.Info) (payload : Bytes) : Quiet w (w.consume i reader sender payload) := by
  refine of_event rfl (fun _ => ?_) (setHost_hosts rfl rfl)
  cases reader
  · exact absurd rfl owner
  all_goals exact ⟨rfl, rfl⟩

theorem setForeground (w : World) (i : Nat) (foreground : Foreground) :
    Quiet w (w.setForeground i foreground) :=
  of_log rfl (setHost_hosts rfl rfl)

theorem noteResponseCallback (w : World) (i : Nat) (config : SendConfig) (sender : Socket.Info)
    (data : Bytes) : Quiet w (w.note (.responseCallback i config sender data)) :=
  of_event rfl (fun _ => ⟨rfl, rfl⟩) fun _ => ⟨rfl, rfl⟩

theorem receiveOn (w : World) (i : Nat) {reader : Reader} (owner : reader ≠ .server)
    (maxNumBytes : Nat) (ok : Bool) : Quiet w (w.receiveOn i reader maxNumBytes ok).2 := by
  rcases World.receiveOn_cases w i reader maxNumBytes ok with none | ⟨_, _, _, _, _, _, some⟩
  · rw [none]
    exact refl w
  · rw [some]
    exact consume w i owner _ _

theorem transmitAll (w : World) (i : Nat) (calls : List SocketCall) :
    Quiet w (w.transmitAll i calls) := by
  induction calls generalizing w with
  | nil => exact refl w
  | cons c calls ih =>
      cases c <;> simp only [World.transmitAll] <;>
        first | exact (transmit _ _ _ _).trans (ih _) | exact ih w

theorem sendRequestAt (w : World) (i : Nat) (data : Bytes) (config : SendConfig) (os : SendOs) :
    Quiet w (w.sendRequestAt i data config os) := by
  have sent : Quiet w (if os.sendtoOk then
      w.transmitAll i ((w.hosts i).socket.sendRequest data config os).2 else w) := by
    split
    · exact transmitAll w i _
    · exact refl w
  unfold World.sendRequestAt
  dsimp only
  split
  · exact sent.trans (setForeground _ _ _)
  · exact sent

theorem awaitResponseAt (w : World) (i : Nat) (config : SendConfig) (ok : Bool) :
    Quiet w (w.awaitResponseAt i config ok) := by
  have waited := (receiveOn w i (by decide : Reader.response ≠ .server) config.responseSize
    ok).trans (setForeground _ i .idle)
  unfold World.awaitResponseAt
  split
  · exact waited.trans (noteResponseCallback _ _ _ _ _)
  · exact waited

theorem setWorker_idle (w : World) (i : Nat) : Quiet w (w.setWorker i .idle) := by
  refine ⟨⟨[], by simp, fun _ => ⟨rfl, rfl⟩⟩, fun j => ?_⟩
  by_cases same : j = i <;> simp [same]

/-- The reply `sendto` of a worker sends at most a datagram and leaves its worker idle. -/
theorem serverReplyAt (w : World) (i : Nat) (ok : Bool) : Quiet w (w.serverReplyAt i ok) := by
  unfold World.serverReplyAt
  split
  · exact refl w
  · next destination payload _ =>
      split
      · exact (transmit w i destination payload).trans (setWorker_idle _ i)
      · exact setWorker_idle w i

end Quiet

namespace Serving

theorem initial {w : World} (initial : Initial w) : Serving w := by
  obtain ⟨-, log, hosts⟩ := initial
  refine ⟨fun _ _ => by simp [log], fun _ _ _ => by simp [log], fun j _ _ replying => ?_⟩
  rw [(hosts j).2.2] at replying
  cases replying

/-- A step that logs no read or callback invocation of a worker, changes no socket object
and leaves each worker as it was or idle keeps the invariant. -/
theorem quiet {w w' : World} (serving : Serving w) (step : Quiet w w') : Serving w' := by
  obtain ⟨extra, log, silent⟩ := step.log
  refine ⟨fun j notReceiving => ?_, fun j bufferSize running => ?_,
    fun j destination payload replying => ?_⟩
  · rw [(step.hosts j).1] at notReceiving
    simpa [log, (silent j).1, (silent j).2] using serving.idle j notReceiving
  · rw [(step.hosts j).1] at running ⊢
    simpa [log, (silent j).1, (silent j).2] using serving.reads j bufferSize running
  · rcases (step.hosts j).2 with same | idle
    · rw [same] at replying
      simpa [log, (silent j).2] using serving.pending j destination payload replying
    · rw [idle] at replying
      cases replying

/-- `start_receiving` on a host keeps the invariant: on a host that runs a worker it changes
nothing, and a host that runs none has neither read nor invoked a callback. -/
theorem startReceivingAt {w : World} (serving : Serving w) (i : Nat)
    (receiveConfig : ReceiveConfig) (os : StartReceivingOs) :
    Serving (w.startReceivingAt i receiveConfig os) := by
  by_cases receiving : (w.hosts i).socket.receiving = true
  · have same : w.startReceivingAt i receiveConfig os = w := by
      simp [World.startReceivingAt, UdpSocket.startReceiving_of_receiving receiving, World.setHost]
    rw [same]
    exact serving
  · obtain ⟨noReads, noCalls⟩ := serving.idle i (Bool.eq_false_iff.mpr receiving)
    have other (j : Nat) (same : j ≠ i) : (w.startReceivingAt i receiveConfig os).hosts j =
        w.hosts j := by
      simp [World.startReceivingAt, same]
    refine ⟨fun j notReceiving => ?_, fun j bufferSize running => ?_,
      fun j destination payload replying => ?_⟩
    · by_cases same : j = i
      · subst same
        exact ⟨noReads, noCalls⟩
      · rw [other j same] at notReceiving
        exact serving.idle j notReceiving
    · by_cases same : j = i
      · subst same
        simp [World.startReceivingAt, noReads, noCalls]
      · rw [other j same] at running ⊢
        exact serving.reads j bufferSize running
    · by_cases same : j = i
      · subst same
        simp [World.startReceivingAt] at replying
        exact serving.pending j destination payload replying
      · rw [other j same] at replying
        exact serving.pending j destination payload replying

/-- A read of the worker of host `i` with no callback registered: the datagram is dropped. -/
theorem drop_read {w : World} (serving : Serving w) {i bufferSize : Nat}
    (running : (w.hosts i).socket.task = some ⟨bufferSize, true⟩)
    (unregistered : (w.hosts i).socket.serverReceiveCallback = none)
    (sender : Socket.Info) (payload : Bytes) :
    Serving (w.consume i .server sender payload) := by
  refine ⟨fun j notReceiving => ?_, fun j bufferSize' running' => ?_,
    fun j destination payload' replying => ?_⟩ <;> by_cases same : j = i
  · subst same
    simp [UdpSocket.receiving, running] at notReceiving
  · simpa [same, Ne.symm same] using serving.idle j (by simpa [same] using notReceiving)
  · subst same
    simpa [dispatched, unregistered] using serving.reads j bufferSize' (by simpa using running')
  · simpa [same, Ne.symm same] using serving.reads j bufferSize' (by simpa [same] using running')
  · subst same
    simpa using serving.pending j destination payload' (by simpa using replying)
  · simpa [same, Ne.symm same] using serving.pending j destination payload'
      (by simpa [same] using replying)

/-- A read of the worker of host `i` that reaches its registered callback, which returns
`reply`. -/
theorem invoke {w : World} (serving : Serving w) {i bufferSize : Nat}
    {callback : ReceiveCallbackFn} (running : (w.hosts i).socket.task = some ⟨bufferSize, true⟩)
    (registered : (w.hosts i).socket.serverReceiveCallback = some callback)
    (idle : (w.hosts i).worker = .idle) (sender : Socket.Info) (payload : Bytes)
    (reply : Option Bytes) :
    Serving ((w.consume i .server sender payload).note
      (.receiveCallback i callback (payload.take bufferSize) sender reply)) := by
  refine ⟨fun j notReceiving => ?_, fun j bufferSize' running' => ?_,
    fun j destination payload' replying => ?_⟩ <;> by_cases same : j = i
  · subst same
    simp [UdpSocket.receiving, running] at notReceiving
  · simpa [same, Ne.symm same] using serving.idle j (by simpa [same] using notReceiving)
  · subst same
    obtain rfl : bufferSize = bufferSize' := by simp_all
    simpa [dispatched, registered, Invocation.given] using serving.reads j bufferSize running
  · simpa [same, Ne.symm same] using serving.reads j bufferSize' (by simpa [same] using running')
  · subst same
    simp [idle] at replying
  · simpa [same, Ne.symm same] using serving.pending j destination payload'
      (by simpa [same] using replying)

/-- A worker whose latest callback returned `payload` for `destination` is about to send it. -/
theorem setReplying {w : World} (serving : Serving w) {i : Nat} {destination : Socket.Info}
    {payload : Bytes} (latest : ∃ callback data,
      (invocations i w.log).getLast? = some ⟨callback, data, destination, some payload⟩) :
    Serving (w.setWorker i (.replying destination payload)) := by
  refine ⟨fun j notReceiving => ?_, fun j bufferSize running => ?_,
    fun j destination' payload' replying => ?_⟩
  · exact serving.idle j (by by_cases same : j = i <;> simp_all)
  · by_cases same : j = i
    · subst same
      simpa using serving.reads j bufferSize (by simpa using running)
    · simpa [same] using serving.reads j bufferSize (by simpa [same] using running)
  · by_cases same : j = i
    · subst same
      simp only [World.setWorker_hosts, if_true, Worker.replying.injEq] at replying
      obtain ⟨rfl, rfl⟩ := replying
      exact latest
    · exact serving.pending j destination' payload' (by simpa [same] using replying)

/-- One iteration of a host's worker keeps the invariant. -/
theorem serverIterationAt {w : World} (serving : Serving w) (i : Nat)
    (ok : Bool) (reply : Option Bytes) (started : (w.hosts i).socket.receiving = true)
    (idle : (w.hosts i).worker = .idle) : Serving (w.serverIterationAt i ok reply) := by
  obtain ⟨bufferSize, running⟩ := (UdpSocket.receiving_iff _).mp started
  unfold World.serverIterationAt
  rw [running]
  dsimp only
  rcases World.receiveOn_cases w i .server bufferSize ok
    with nothing | ⟨data, sender, payload, rest, -, cut, got⟩
  · have received : (w.hosts i).socket.receive bufferSize (w.recvfromOn i ok) = none := by
      rw [← Invariant.receiveOn_fst, nothing]
    simp only [UdpSocket.serverTaskFunction, received, nothing, World.perform]
    exact serving
  · have received : (w.hosts i).socket.receive bufferSize (w.recvfromOn i ok) =
        some (data, sender) := by
      rw [← Invariant.receiveOn_fst, got]
    rw [got]
    simp only [UdpSocket.serverTaskFunction, received]
    cases registered : (w.hosts i).socket.serverReceiveCallback with
    | none => exact serving.drop_read running registered sender payload
    | some callback =>
        have invoked := serving.invoke running registered idle sender payload reply
        rw [World.perform, cut]
        cases reply with
        | none => exact invoked
        | some response => exact invoked.setReplying ⟨callback, payload.take bufferSize, by simp⟩

/-- Every step keeps the invariant. -/
theorem step {w w' : World} (serving : Serving w) (step : Step w w') :
    Serving w' := by
  cases step with
  | transmit i destination payload => exact serving.quiet (Quiet.transmit _ _ _ _)
  | deliver k j datagram keep _ _ => exact serving.quiet (Quiet.deliver _ _ _ _ _)
  | drop k => exact serving.quiet (Quiet.drop _ _)
  | startReceiving i receiveConfig os _ => exact serving.startReceivingAt i receiveConfig os
  | sendRequest i data config os _ => exact serving.quiet (Quiet.sendRequestAt _ _ _ _ _)
  | awaitResponse i config ok _ => exact serving.quiet (Quiet.awaitResponseAt _ _ _ _)
  | receive i maxNumBytes ok _ =>
      exact serving.quiet (Quiet.receiveOn _ _ (by decide : Reader.receive ≠ .server) _ _)
  | serverIteration i ok reply started idle =>
      exact serving.serverIterationAt i ok reply started idle
  | serverReply i ok _ _ _ => exact serving.quiet (Quiet.serverReplyAt _ _ _)

/-- The invariant holds in every reachable world. -/
theorem reachable {w : World} (reachable : Reachable w) : Serving w := by
  induction reachable with
  | initial initial => exact Serving.initial initial
  | step _ step ih => exact ih.step step

end Serving

/-- A datagram a worker read was delivered to its host. -/
theorem delivered_of_serverReads {w : World} (inv : Invariant w) {j : Nat}
    {read : Socket.Info × Bytes} (mem : read ∈ serverReads j w.log) :
    ∃ destination, Event.delivered j ⟨read.1, destination, read.2⟩ ∈ w.log :=
  mem_deliveredTo (by
    rw [inv.conservation j]
    exact List.mem_append_left _ (List.mem_map_of_mem Prod.snd (readFrom_of_serverReads mem)))

/-- The server's callback gets delivered datagrams. In every reachable world, each callback
invocation is of the callback a running worker has registered, with the first `buffer_size`
bytes of a datagram delivered to the host, sent by the endpoint given as sender. -/
theorem server_callback_gets_delivered_datagram {w : World} (reachable : Reachable w) {i : Nat}
    {callback : ReceiveCallbackFn} {data : Bytes} {sender : Socket.Info} {reply : Option Bytes}
    (called : Event.receiveCallback i callback data sender reply ∈ w.log) :
    ∃ bufferSize destination payload,
      (w.hosts i).socket.task = some ⟨bufferSize, true⟩ ∧
      (w.hosts i).socket.serverReceiveCallback = some callback ∧
      data = payload.take bufferSize ∧
      Event.delivered i ⟨sender, destination, payload⟩ ∈ w.log ∧
      Event.sent ⟨sender, destination, payload⟩ ∈ w.log := by
  have serving := Serving.reachable reachable
  have inv := Invariant.reachable reachable
  have invoked := mem_invocations called
  cases receiving : (w.hosts i).socket.receiving
  · simp [(serving.idle i receiving).2] at invoked
  obtain ⟨bufferSize, running⟩ := (UdpSocket.receiving_iff _).mp receiving
  have given := List.mem_map_of_mem Invocation.given invoked
  rw [serving.reads i bufferSize running, dispatched] at given
  obtain ⟨read, mem, found⟩ := List.mem_filterMap.mp given
  obtain ⟨callback', registered, same⟩ := Option.map_eq_some'.mp found
  simp only [Invocation.given, Prod.mk.injEq] at same
  obtain ⟨rfl, rfl, rfl⟩ := same
  obtain ⟨destination, delivered⟩ := delivered_of_serverReads inv mem
  exact ⟨bufferSize, destination, read.2, running, registered, rfl, delivered,
    inv.deliveredSent i _ delivered⟩

/-- Host 1 starts receiving with callback `1`; host 0 sends it `REQ`; the network delivers it;
host 1's worker reads it and its callback answers `ACK`. -/
def servedRequest : World :=
  let started := lan.startReceivingAt 1 ⟨5000, 64, false, "", some ⟨1⟩⟩ ⟨true, true, true⟩
  let request := started.transmit 0 ⟨"10.0.0.2", 5000⟩ [82, 69, 81]
  let delivered :=
    request.deliver 0 ⟨⟨"10.0.0.1", 4000⟩, ⟨"10.0.0.2", 5000⟩, [82, 69, 81]⟩ 1 false
  delivered.serverIterationAt 1 true (some [65, 67, 75])

theorem servedRequest_reachable : Reachable servedRequest := by
  unfold servedRequest
  exact .step (.step (.step (.step (.initial lan_initial) (.startReceiving _ 1 _ _ rfl))
    (.transmit _ 0 _ _)) (.deliver _ 0 1 _ false (by decide) (by decide)))
    (.serverIteration _ 1 true _ (by decide) rfl)

/-- In that run the callback got host 0's request from its real endpoint. -/
theorem served_request_delivered :
    ∃ bufferSize destination payload,
      (servedRequest.hosts 1).socket.task = some ⟨bufferSize, true⟩ ∧
      (servedRequest.hosts 1).socket.serverReceiveCallback = some ⟨1⟩ ∧
      [82, 69, 81] = payload.take bufferSize ∧
      Event.delivered 1 ⟨⟨"10.0.0.1", 4000⟩, destination, payload⟩ ∈ servedRequest.log ∧
      Event.sent ⟨⟨"10.0.0.1", 4000⟩, destination, payload⟩ ∈ servedRequest.log :=
  server_callback_gets_delivered_datagram servedRequest_reachable
    (by decide : Event.receiveCallback 1 ⟨1⟩ [82, 69, 81] ⟨"10.0.0.1", 4000⟩ (some [65, 67, 75]) ∈
      servedRequest.log)

end Network

end Espp
