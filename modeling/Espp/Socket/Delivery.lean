import Espp.Socket.Network

/-!
# What a receive on a shared socket gets

Every receive on a socket reads the oldest datagram of the kernel's queue of its
descriptor, whoever sent it and whichever thread asks. This file proves the invariant
that pins this down over every run of the network model:

* what was delivered to a socket, in order, is what its receives read, in order, each
  read recorded with its reader, followed by what is still queued;
* whatever is in flight or was delivered was sent by some party;
* the data a `send` hands to its response callback is a delivered datagram cut to
  `response_size` bytes, with the sender its receive reported.

The invariant is proved once for each operation of the world, and each step is a
composition of those operations.
-/

namespace Espp

namespace Network

/-- The datagrams delivered to host `j`, oldest first, as sender and payload. -/
def deliveredTo (j : Nat) (log : List Event) : List (Socket.Info × Bytes) :=
  log.filterMap fun
    | .delivered host datagram =>
        if host = j then some (datagram.source, datagram.payload) else none
    | _ => none

/-- The datagrams read off host `j`'s queue, oldest first, each with its reader. -/
def readFrom (j : Nat) (log : List Event) : List (Reader × Socket.Info × Bytes) :=
  log.filterMap fun
    | .consumed host reader sender payload =>
        if host = j then some (reader, sender, payload) else none
    | _ => none

@[simp]
theorem deliveredTo_append (j : Nat) (first second : List Event) :
    deliveredTo j (first ++ second) = deliveredTo j first ++ deliveredTo j second :=
  List.filterMap_append _ _ _

@[simp]
theorem readFrom_append (j : Nat) (first second : List Event) :
    readFrom j (first ++ second) = readFrom j first ++ readFrom j second :=
  List.filterMap_append _ _ _

@[simp] theorem deliveredTo_nil (j : Nat) : deliveredTo j [] = [] := rfl

@[simp] theorem readFrom_nil (j : Nat) : readFrom j [] = [] := rfl

@[simp]
theorem deliveredTo_delivered (j host : Nat) (datagram : Datagram) :
    deliveredTo j [.delivered host datagram] =
      if host = j then [(datagram.source, datagram.payload)] else [] := by
  by_cases same : host = j <;> simp [deliveredTo, same]

@[simp]
theorem readFrom_consumed (j host : Nat) (reader : Reader) (sender : Socket.Info)
    (payload : Bytes) :
    readFrom j [.consumed host reader sender payload] =
      if host = j then [(reader, sender, payload)] else [] := by
  by_cases same : host = j <;> simp [readFrom, same]

@[simp] theorem deliveredTo_sent (j : Nat) (datagram : Datagram) :
    deliveredTo j [.sent datagram] = [] := rfl

@[simp] theorem readFrom_sent (j : Nat) (datagram : Datagram) :
    readFrom j [.sent datagram] = [] := rfl

@[simp] theorem deliveredTo_consumed (j host : Nat) (reader : Reader) (sender : Socket.Info)
    (payload : Bytes) : deliveredTo j [.consumed host reader sender payload] = [] := rfl

@[simp] theorem readFrom_delivered (j host : Nat) (datagram : Datagram) :
    readFrom j [.delivered host datagram] = [] := rfl

@[simp] theorem deliveredTo_receiveCallback (j host : Nat) (callback : ReceiveCallbackFn)
    (data : Bytes) (sender : Socket.Info) (reply : Option Bytes) :
    deliveredTo j [.receiveCallback host callback data sender reply] = [] := rfl

@[simp] theorem readFrom_receiveCallback (j host : Nat) (callback : ReceiveCallbackFn)
    (data : Bytes) (sender : Socket.Info) (reply : Option Bytes) :
    readFrom j [.receiveCallback host callback data sender reply] = [] := rfl

@[simp] theorem deliveredTo_responseCallback (j host : Nat) (config : SendConfig)
    (sender : Socket.Info) (data : Bytes) :
    deliveredTo j [.responseCallback host config sender data] = [] := rfl

@[simp] theorem readFrom_responseCallback (j host : Nat) (config : SendConfig)
    (sender : Socket.Info) (data : Bytes) :
    readFrom j [.responseCallback host config sender data] = [] := rfl

/-- A datagram still queued at host `j` was delivered to it. -/
theorem mem_deliveredTo {j : Nat} {log : List Event} {sender : Socket.Info} {payload : Bytes}
    (delivered : (sender, payload) ∈ deliveredTo j log) :
    ∃ destination, Event.delivered j ⟨sender, destination, payload⟩ ∈ log := by
  obtain ⟨event, mem, found⟩ := List.mem_filterMap.mp delivered
  cases event with
  | delivered host datagram =>
      by_cases same : host = j
      · simp only [same, if_true, Option.some.injEq, Prod.mk.injEq] at found
        obtain ⟨rfl, rfl⟩ := found
        exact ⟨datagram.destination, same ▸ mem⟩
      · simp [same] at found
  | _ => cases found

/-- The invariant of the network model. -/
structure Invariant (w : World) : Prop where
  /-- What was delivered to a host is what was read off its queue, then what is queued. -/
  conservation : ∀ j, deliveredTo j w.log = (readFrom j w.log).map Prod.snd ++ (w.hosts j).queue
  /-- Every datagram in flight was sent. -/
  inFlightSent : ∀ datagram ∈ w.inFlight, Event.sent datagram ∈ w.log
  /-- Every delivered datagram was sent. -/
  deliveredSent : ∀ j datagram, Event.delivered j datagram ∈ w.log → Event.sent datagram ∈ w.log
  /-- A response callback gets a datagram delivered to its host, cut to the response size. -/
  responsesDelivered : ∀ i config sender data,
    Event.responseCallback i config sender data ∈ w.log →
      ∃ destination payload, data = payload.take config.responseSize ∧
        Event.delivered i ⟨sender, destination, payload⟩ ∈ w.log

namespace Invariant

theorem initial {w : World} (initial : Initial w) : Invariant w := by
  obtain ⟨inFlight, log, hosts⟩ := initial
  refine ⟨fun j => ?_, ?_, ?_, ?_⟩ <;> simp [inFlight, log, (hosts _).1]

/-- Replacing a host by one with the same queue keeps the invariant. -/
theorem setHost {w : World} (inv : Invariant w) {i : Nat} {host : Host}
    (sameQueue : host.queue = (w.hosts i).queue) : Invariant (w.setHost i host) := by
  refine ⟨fun j => ?_, inv.inFlightSent, inv.deliveredSent, inv.responsesDelivered⟩
  by_cases same : j = i
  · subst same
    simpa [sameQueue] using inv.conservation j
  · simpa [same] using inv.conservation j

theorem setForeground {w : World} (inv : Invariant w) (i : Nat) (foreground : Foreground) :
    Invariant (w.setForeground i foreground) :=
  inv.setHost rfl

theorem setWorker {w : World} (inv : Invariant w) (i : Nat) (worker : Worker) :
    Invariant (w.setWorker i worker) :=
  inv.setHost rfl

/-- A world that logs one more event, neither a delivery nor a response callback, keeps the
invariant once its queues keep the conservation law and what it has in flight was sent. -/
theorem append_event {w w' : World} (inv : Invariant w) {event : Event}
    (log : w'.log = w.log ++ [event])
    (notDelivered : ∀ j datagram, event ≠ .delivered j datagram)
    (notResponse : ∀ i config sender data, event ≠ .responseCallback i config sender data)
    (conservation : ∀ j,
      deliveredTo j w'.log = (readFrom j w'.log).map Prod.snd ++ (w'.hosts j).queue)
    (inFlightSent : ∀ datagram ∈ w'.inFlight, Event.sent datagram ∈ w'.log) : Invariant w' where
  conservation := conservation
  inFlightSent := inFlightSent
  deliveredSent j datagram delivered := by
    rw [log] at delivered ⊢
    rcases List.mem_append.mp delivered with delivered | other
    · exact List.mem_append_left _ (inv.deliveredSent j datagram delivered)
    · exact absurd (List.mem_singleton.mp other).symm (notDelivered j datagram)
  responsesDelivered i config sender data response := by
    rw [log] at response ⊢
    rcases List.mem_append.mp response with response | other
    · obtain ⟨destination, payload, cut, delivered⟩ :=
        inv.responsesDelivered i config sender data response
      exact ⟨destination, payload, cut, List.mem_append_left _ delivered⟩
    · exact absurd (List.mem_singleton.mp other).symm (notResponse i config sender data)

theorem transmit {w : World} (inv : Invariant w) (i : Nat) (destination : Socket.Info)
    (payload : Bytes) : Invariant (w.transmit i destination payload) := by
  refine inv.append_event rfl (fun _ _ => nofun) (fun _ _ _ _ => nofun)
    (fun j => by simpa using inv.conservation j) fun datagram sent => ?_
  simp only [World.transmit_inFlight, List.mem_append, List.mem_singleton] at sent
  rcases sent with sent | rfl
  · exact List.mem_append_left _ (inv.inFlightSent datagram sent)
  · simp

theorem noteReceiveCallback {w : World} (inv : Invariant w) (i : Nat)
    (callback : ReceiveCallbackFn) (data : Bytes) (sender : Socket.Info) (reply : Option Bytes) :
    Invariant (w.note (.receiveCallback i callback data sender reply)) :=
  inv.append_event rfl (fun _ _ => nofun) (fun _ _ _ _ => nofun)
    (fun j => by simpa using inv.conservation j)
    fun datagram sent => List.mem_append_left _ (inv.inFlightSent datagram sent)

/-- A response callback that gets a delivered datagram cut to the response size keeps the
invariant. -/
theorem noteResponseCallback {w : World} (inv : Invariant w) {i : Nat} {config : SendConfig}
    {sender : Socket.Info} {data : Bytes}
    (delivered : ∃ destination payload, data = payload.take config.responseSize ∧
      Event.delivered i ⟨sender, destination, payload⟩ ∈ w.log) :
    Invariant (w.note (.responseCallback i config sender data)) where
  conservation j := by simpa using inv.conservation j
  inFlightSent datagram sent := List.mem_append_left _ (inv.inFlightSent datagram sent)
  deliveredSent j datagram delivered := by
    simp only [World.note_log, List.mem_append, List.mem_singleton, reduceCtorEq,
      or_false] at delivered
    exact List.mem_append_left _ (inv.deliveredSent j datagram delivered)
  responsesDelivered i' config' sender' data' response := by
    simp only [World.note_log, List.mem_append, List.mem_singleton, Event.responseCallback.injEq]
      at response
    rcases response with response | ⟨rfl, rfl, rfl, rfl⟩
    · obtain ⟨destination, payload, data, delivered⟩ :=
        inv.responsesDelivered i' config' sender' data' response
      exact ⟨destination, payload, data, List.mem_append_left _ delivered⟩
    · obtain ⟨destination, payload, data, delivered⟩ := delivered
      exact ⟨destination, payload, data, List.mem_append_left _ delivered⟩

theorem deliver {w : World} (inv : Invariant w) {k : Nat} {datagram : Datagram}
    (inFlight : w.inFlight[k]? = some datagram) (j : Nat) (keep : Bool) :
    Invariant (w.deliver k datagram j keep) where
  conservation j' := by
    by_cases same : j' = j
    · subst same
      simp [World.deliver, inv.conservation j']
    · simpa [World.deliver, same, Ne.symm same] using inv.conservation j'
  inFlightSent datagram' sent := by
    have sent' : datagram' ∈ w.inFlight := by
      simp only [World.deliver] at sent
      split at sent
      · exact sent
      · exact List.mem_of_mem_eraseIdx sent
    exact List.mem_append_left _ (inv.inFlightSent datagram' sent')
  deliveredSent j' datagram' delivered := by
    simp only [World.deliver, World.setHost_log, List.mem_append, List.mem_singleton,
      Event.delivered.injEq] at delivered ⊢
    rcases delivered with delivered | ⟨-, rfl⟩
    · exact .inl (inv.deliveredSent j' datagram' delivered)
    · exact .inl (inv.inFlightSent datagram' (List.getElem?_mem inFlight))
  responsesDelivered i config sender data response := by
    simp only [World.deliver, World.setHost_log, List.mem_append, List.mem_singleton,
      reduceCtorEq, or_false] at response ⊢
    obtain ⟨destination, payload, data, delivered⟩ := inv.responsesDelivered i config sender data response
    exact ⟨destination, payload, data, .inl delivered⟩

theorem drop {w : World} (inv : Invariant w) (k : Nat) : Invariant (w.drop k) :=
  ⟨inv.conservation, fun datagram sent => inv.inFlightSent datagram (List.mem_of_mem_eraseIdx sent),
    inv.deliveredSent, inv.responsesDelivered⟩

/-- Taking the oldest datagram off a queue keeps the invariant. -/
theorem consume {w : World} (inv : Invariant w) {i : Nat} {reader : Reader}
    {sender : Socket.Info} {payload : Bytes} {rest : List (Socket.Info × Bytes)}
    (queue : (w.hosts i).queue = (sender, payload) :: rest) :
    Invariant (w.consume i reader sender payload) := by
  refine inv.append_event rfl (fun _ _ => nofun) (fun _ _ _ _ => nofun) (fun j => ?_)
    fun datagram sent => List.mem_append_left _ (inv.inFlightSent datagram sent)
  by_cases same : j = i
  · subst same
    simp [inv.conservation j, queue]
  · simpa [same, Ne.symm same] using inv.conservation j

theorem receiveOn {w : World} (inv : Invariant w) (i : Nat) (reader : Reader)
    (maxNumBytes : Nat) (ok : Bool) : Invariant (w.receiveOn i reader maxNumBytes ok).2 := by
  rcases World.receiveOn_cases w i reader maxNumBytes ok with none | ⟨_, _, _, _, queue, -, some⟩
  · rw [none]
    exact inv
  · rw [some]
    exact inv.consume queue

theorem transmitAll {w : World} (inv : Invariant w) (i : Nat) (calls : List SocketCall) :
    Invariant (w.transmitAll i calls) := by
  induction calls generalizing w with
  | nil => exact inv
  | cons c calls ih =>
      cases c <;> simp only [World.transmitAll] <;> first | exact ih (inv.transmit _ _ _) | exact ih inv

theorem perform {w : World} (inv : Invariant w) (i : Nat) (actions : List ServerAction) :
    Invariant (w.perform i actions) := by
  induction actions generalizing w with
  | nil => exact inv
  | cons action actions ih =>
      cases action with
      | backoff => exact ih inv
      | callback callback data sender reply => exact ih (inv.noteReceiveCallback _ _ _ _ _)
      | sendto destination payload => exact ih (inv.setWorker _ _)

/-- A receive returns what `receive` makes of the `recvfrom` it got. -/
theorem receiveOn_fst (w : World) (i : Nat) (reader : Reader) (maxNumBytes : Nat) (ok : Bool) :
    (w.receiveOn i reader maxNumBytes ok).1 =
      (w.hosts i).socket.receive maxNumBytes (w.recvfromOn i ok) := by
  unfold World.receiveOn
  split
  · rename_i received _
    exact received.symm
  · rename_i notBoth
    cases received : (w.hosts i).socket.receive maxNumBytes (w.recvfromOn i ok) with
    | none => rfl
    | some result =>
        obtain ⟨-, payload, recvfrom, -⟩ := UdpSocket.receive_eq_some received
        exact absurd recvfrom (notBoth result _ _ received)

theorem awaitResponseAt {w : World} (inv : Invariant w) (i : Nat) (config : SendConfig)
    (ok : Bool) : Invariant (w.awaitResponseAt i config ok) := by
  have waited := (inv.receiveOn i .response config.responseSize ok).setForeground i .idle
  unfold World.awaitResponseAt
  split
  · rename_i callback data _ sender response received
    obtain ⟨payload, rest, queue, cut, next⟩ := World.receiveOn_eq_some received
    rw [next] at waited ⊢
    refine waited.noteResponseCallback ?_
    have sameData : data = payload.take config.responseSize := by
      rw [UdpSocket.awaitResponse, ← receiveOn_fst w i .response, received] at response
      simp only [Option.map_eq_some', Prod.mk.injEq] at response
      obtain ⟨_, -, -, same⟩ := response
      exact same.symm.trans cut
    have queued : (sender, payload) ∈ deliveredTo i w.log := by
      rw [inv.conservation i, queue]
      simp
    obtain ⟨destination, delivered⟩ := mem_deliveredTo queued
    exact ⟨destination, payload, sameData, by simp [delivered]⟩
  · exact waited

theorem sendRequestAt {w : World} (inv : Invariant w) (i : Nat) (data : Bytes)
    (config : SendConfig) (os : SendOs) : Invariant (w.sendRequestAt i data config os) := by
  have sent : Invariant (if os.sendtoOk then
      w.transmitAll i ((w.hosts i).socket.sendRequest data config os).2 else w) := by
    split
    · exact inv.transmitAll i _
    · exact inv
  unfold World.sendRequestAt
  dsimp only
  split
  · exact sent.setForeground i _
  · exact sent

theorem serverIterationAt {w : World} (inv : Invariant w) (i : Nat) (ok : Bool)
    (reply : Option Bytes) : Invariant (w.serverIterationAt i ok reply) := by
  unfold World.serverIterationAt
  split
  · exact inv
  · exact (inv.receiveOn i .server _ ok).perform i _

theorem serverReplyAt {w : World} (inv : Invariant w) (i : Nat) (ok : Bool) :
    Invariant (w.serverReplyAt i ok) := by
  unfold World.serverReplyAt
  split
  · exact inv
  · split
    · exact (inv.transmit i _ _).setWorker i .idle
    · exact inv.setWorker i .idle

/-- Every step keeps the invariant. -/
theorem step {w w' : World} (inv : Invariant w) (step : Step w w') : Invariant w' := by
  cases step with
  | transmit i destination payload => exact inv.transmit i destination payload
  | deliver k j datagram keep inFlight _ => exact inv.deliver inFlight j keep
  | drop k => exact inv.drop k
  | startReceiving i receiveConfig os _ => exact inv.setHost rfl
  | sendRequest i data config os _ => exact inv.sendRequestAt i data config os
  | awaitResponse i config ok _ => exact inv.awaitResponseAt i config ok
  | receive i maxNumBytes ok _ => exact inv.receiveOn i .receive maxNumBytes ok
  | serverIteration i ok reply _ _ => exact inv.serverIterationAt i ok reply
  | serverReply i ok _ _ _ => exact inv.serverReplyAt i ok

/-- The invariant holds in every reachable world. -/
theorem reachable {w : World} (reachable : Reachable w) : Invariant w := by
  induction reachable with
  | initial initial => exact Invariant.initial initial
  | step _ step ih => exact ih.step step

end Invariant

/-- Three hosts with fresh sockets: host 0 at 10.0.0.1:4000, host 1 at 10.0.0.2:5000 and
host 2 at 10.0.0.3:6000. -/
def lan : World where
  hosts i := match i with
    | 0 => ⟨UdpSocket.init 3, ⟨"10.0.0.1", 4000⟩, [], .idle, .idle⟩
    | 1 => ⟨UdpSocket.init 4, ⟨"10.0.0.2", 5000⟩, [], .idle, .idle⟩
    | 2 => ⟨UdpSocket.init 5, ⟨"10.0.0.3", 6000⟩, [], .idle, .idle⟩
    | _ => ⟨UdpSocket.init (-1), ⟨"0.0.0.0", 0⟩, [], .idle, .idle⟩
  inFlight := []
  log := []

theorem lan_initial : Initial lan :=
  ⟨rfl, rfl, fun i => by rcases i with _ | _ | _ | i <;> exact ⟨rfl, rfl, rfl⟩⟩

end Network

end Espp
