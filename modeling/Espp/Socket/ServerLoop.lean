import Espp.Socket.Lifecycle

/-!
# Dispatch by the server loop

Once `start_receiving` has succeeded, the worker task runs `server_task_function` again
and again with the buffer size bound into it. This file runs that loop over any sequence
of iterations, each meeting a failed receive or a datagram, and shows that its trace is
the intended dispatch: one callback invocation per datagram, with the datagram cut to the
bound and with its real sender, then exactly the reply the callback returned, addressed
to that sender.

Two facts carry the proof: the task and the callback are those of the successful call
(`receivingWith_of_startReceiving`), and the socket it checked stays valid, so every
successful `recvfrom` reaches the callback.
-/

namespace Espp

namespace UdpSocket

/-- What one iteration of the server loop meets: a failed receive, or a datagram with
its sender together with what the registered callback returns if it is invoked. -/
inductive Inbound
  | failure
  | datagram (sender : Socket.Info) (payload : Bytes) (reply : Option Bytes)

/-- What `recvfrom` hands back at an iteration. -/
def Inbound.recvfrom : Inbound → Option (Socket.Info × Bytes)
  | .failure => none
  | .datagram sender payload _ => some (sender, payload)

/-- What the callback returns at an iteration, if it is invoked. -/
def Inbound.reply : Inbound → Option Bytes
  | .failure => none
  | .datagram _ _ reply => reply

/-- The worker over a sequence of iterations: the task function with the buffer size
bound into it, at every iteration, while the task is started. -/
def serverLoop (s : UdpSocket) (inbound : List Inbound) : List ServerAction :=
  match s.task with
  | some task =>
      if task.started then
        inbound.flatMap fun i => s.serverTaskFunction task.bufferSize i.recvfrom i.reply
      else []
  | none => []

/-- The intended dispatch of one iteration, read off the receive configuration alone: a
failed receive backs off and invokes nothing; a datagram `p` from `sender` goes to the registered callback as its first
`min |p| buffer_size` bytes, and a reply `r` goes back to `sender` in one `sendto`; with
no callback registered nothing happens. -/
def dispatch (receiveConfig : ReceiveConfig) : Inbound → List ServerAction
  | .failure => [.backoff]
  | .datagram sender payload reply =>
      match receiveConfig.onReceiveCallback with
      | none => []
      | some callback =>
          .callback callback (payload.take (min payload.length receiveConfig.bufferSize))
              sender reply ::
            match reply with
            | none => []
            | some response => [.sendto sender response]

theorem take_min_length {α : Type} (l : List α) (n : Nat) :
    l.take (min l.length n) = l.take n := by
  rw [Nat.min_comm, ← List.take_take, List.take_length]

/-- `start_receiving` succeeds only on a valid socket, which it keeps. -/
theorem valid_of_startReceiving {s : UdpSocket} {receiveConfig : ReceiveConfig}
    {os : StartReceivingOs} (succeeded : (s.startReceiving receiveConfig os).1 = true) :
    Socket.isValid (s.startReceiving receiveConfig os).2.1.socket = true := by
  rcases startReceiving_cases s receiveConfig os with ⟨-, valid, state, -⟩ | ⟨failed, -, -⟩
  · rw [state]
    exact valid
  · exact absurd (succeeded.symm.trans failed) (by decide)

/-- One iteration of a valid socket running the worker of `receiveConfig` is its
`dispatch`. -/
theorem serverTaskFunction_eq_dispatch {s : UdpSocket} {receiveConfig : ReceiveConfig}
    (receivingWith : ReceivingWith s receiveConfig) (valid : Socket.isValid s.socket = true)
    (i : Inbound) :
    s.serverTaskFunction receiveConfig.bufferSize i.recvfrom i.reply = dispatch receiveConfig i := by
  cases i with
  | failure => simp [serverTaskFunction, Inbound.recvfrom, dispatch]
  | datagram sender payload reply =>
      simp only [serverTaskFunction, Inbound.recvfrom, Inbound.reply, dispatch,
        receive_of_valid valid, Option.map_some', receivingWith.2, take_min_length]
      cases receiveConfig.onReceiveCallback <;> cases reply <;> rfl

/-- Server-loop dispatch. After `start_receiving` has returned true, over every sequence
of received datagrams and receive failures, and whatever the callback returns, the
loop's trace is the `dispatch` of each iteration in turn. -/
theorem server_loop_dispatch (s : UdpSocket) (receiveConfig : ReceiveConfig)
    (os : StartReceivingOs) (succeeded : (s.startReceiving receiveConfig os).1 = true)
    (inbound : List Inbound) :
    (s.startReceiving receiveConfig os).2.1.serverLoop inbound =
      inbound.flatMap (dispatch receiveConfig) := by
  have receivingWith := receivingWith_of_startReceiving succeeded
  simp only [serverLoop, receivingWith.1, if_true]
  exact List.flatMap_congr fun i _ =>
    serverTaskFunction_eq_dispatch receivingWith (valid_of_startReceiving succeeded) i

/-- The loop on a fresh socket bound to port 5000 with callback `1` and a 4-byte buffer:
an 8-byte datagram reaches the callback cut to 4 bytes, and its reply goes back. -/
theorem server_loop_dispatch_echo :
    ((init 3).startReceiving ⟨5000, 4, false, "", some ⟨1⟩⟩ ⟨true, true, true⟩).1 = true ∧
      ((init 3).startReceiving ⟨5000, 4, false, "", some ⟨1⟩⟩ ⟨true, true, true⟩).2.1.serverLoop
          [.datagram ⟨"10.0.0.2", 6000⟩ [1, 2, 3, 4, 5, 6, 7, 8] (some [9])] =
        [.callback ⟨1⟩ [1, 2, 3, 4] ⟨"10.0.0.2", 6000⟩ (some [9]),
          .sendto ⟨"10.0.0.2", 6000⟩ [9]] :=
  ⟨rfl, by
    rw [server_loop_dispatch (init 3) ⟨5000, 4, false, "", some ⟨1⟩⟩ ⟨true, true, true⟩ rfl]
    decide⟩

end UdpSocket

end Espp
