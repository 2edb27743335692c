import Espp.Socket.Basic
import Mathlib.Algebra.Order.Ring.Nat

/-!
# At most one receive loop per socket

The owner of a socket makes a sequence of calls on it: `start_receiving`, `send` and
`receive`, each meeting whatever its OS primitives return. This file runs such
sequences on the object built by the constructor and shows that the first successful
`start_receiving` fixes the worker for good: no later call rebinds the socket, starts a
second task or replaces the registered callback.

The argument is the guard at the top of `start_receiving`. Once a task is started the
guard rejects every further call before anything is written, and `send` and `receive`
write none of the object's fields, so the task and the callback of the successful call
stay in place.
-/

namespace Espp

namespace SocketCall

/-- The call that starts the worker task. -/
def isStartTask : SocketCall → Bool
  | .startTask _ => true
  | _ => false

end SocketCall

namespace UdpSocket

/-- A call of the socket's owner, with what the OS primitives it calls return. -/
inductive Call
  | startReceiving (receiveConfig : ReceiveConfig) (os : StartReceivingOs)
  | send (data : Bytes) (config : SendConfig) (os : SendOs)
      (recvfrom : Option (Socket.Info × Bytes))
  | receive (maxNumBytes : Nat) (recvfrom : Option (Socket.Info × Bytes))

/-- One call: its result, the object after it, and the calls it made into the OS. -/
def call (s : UdpSocket) : Call → Bool × UdpSocket × List SocketCall
  | .startReceiving receiveConfig os => s.startReceiving receiveConfig os
  | .send data config os recvfrom =>
      ((s.send data config os recvfrom).1, s, (s.send data config os recvfrom).2)
  | .receive maxNumBytes recvfrom =>
      ((s.receive maxNumBytes recvfrom).isSome, s,
        if Socket.isValid s.socket then [.recvfrom maxNumBytes] else [])

/-- The result and the OS calls of each call of a sequence. -/
def run (s : UdpSocket) : List Call → List (Bool × List SocketCall)
  | [] => []
  | c :: calls => ((s.call c).1, (s.call c).2.2) :: (s.call c).2.1.run calls

/-- The object after a sequence of calls. -/
def after (s : UdpSocket) : List Call → UdpSocket
  | [] => s
  | c :: calls => (s.call c).2.1.after calls

/-- The number of worker tasks the calls of a run started. -/
def taskStarts (outputs : List (Bool × List SocketCall)) : Nat :=
  (outputs.map fun output => output.2.countP SocketCall.isStartTask).sum

/-- The socket runs the worker that `start_receiving receiveConfig` bound: started,
with its buffer size, and with its callback registered. -/
def ReceivingWith (s : UdpSocket) (receiveConfig : ReceiveConfig) : Prop :=
  s.task = some ⟨receiveConfig.bufferSize, true⟩ ∧
    s.serverReceiveCallback = receiveConfig.onReceiveCallback

/-- After every prefix of `later` the socket still runs the worker of `receiveConfig`,
and every `start_receiving` of `later` returns false without a call into the OS and
without writing the object. -/
def KeepsWorker (s : UdpSocket) (receiveConfig : ReceiveConfig) (later : List Call) : Prop :=
  ∀ middle rest, later = middle ++ rest →
    ReceivingWith (s.after middle) receiveConfig ∧
      ∀ receiveConfig' os' rest', rest = .startReceiving receiveConfig' os' :: rest' →
        (s.after middle).call (.startReceiving receiveConfig' os') = (false, s.after middle, [])

@[simp]
theorem after_nil (s : UdpSocket) : s.after [] = s := rfl

@[simp]
theorem after_cons (s : UdpSocket) (c : Call) (calls : List Call) :
    s.after (c :: calls) = (s.call c).2.1.after calls := rfl

theorem after_append (s : UdpSocket) (first second : List Call) :
    s.after (first ++ second) = (s.after first).after second := by
  induction first generalizing s with
  | nil => rfl
  | cons c first ih => exact ih _

@[simp]
theorem run_nil (s : UdpSocket) : s.run [] = [] := rfl

@[simp]
theorem taskStarts_nil : taskStarts [] = 0 := rfl

@[simp]
theorem taskStarts_cons (output : Bool × List SocketCall) (outputs : List (Bool × List SocketCall)) :
    taskStarts (output :: outputs) =
      output.2.countP SocketCall.isStartTask + taskStarts outputs := by
  simp [taskStarts]

theorem ReceivingWith.started {s : UdpSocket} {receiveConfig : ReceiveConfig}
    (receivingWith : ReceivingWith s receiveConfig) : s.receiving = true := by
  simp [UdpSocket.receiving, receivingWith.1]

/-- A started worker makes `start_receiving` return false at once. -/
theorem startReceiving_of_receiving {s : UdpSocket} (receiving : s.receiving = true)
    (receiveConfig : ReceiveConfig) (os : StartReceivingOs) :
    s.startReceiving receiveConfig os = (false, s, []) := by
  simp [startReceiving, receiving]

theorem sendRequest_countP_startTask (s : UdpSocket) (data : Bytes) (config : SendConfig)
    (os : SendOs) : (s.sendRequest data config os).2.countP SocketCall.isStartTask = 0 := by
  simp [sendRequest, apply_ite Prod.snd, apply_ite (List.countP SocketCall.isStartTask),
    SocketCall.isStartTask]

/-- `send` and `receive` write none of the object's fields. -/
theorem call_state_of_not_startReceiving (s : UdpSocket) (c : Call)
    (notStart : ∀ receiveConfig os, c ≠ .startReceiving receiveConfig os) :
    (s.call c).2.1 = s ∧ (s.call c).2.2.countP SocketCall.isStartTask = 0 := by
  cases c with
  | startReceiving receiveConfig os => exact absurd rfl (notStart receiveConfig os)
  | send data config os recvfrom =>
      have none := s.sendRequest_countP_startTask data config os
      refine ⟨rfl, ?_⟩
      simp only [call, send]
      split <;> simp_all [SocketCall.isStartTask]
  | receive maxNumBytes recvfrom =>
      refine ⟨rfl, ?_⟩
      simp only [call]
      split <;> simp [SocketCall.isStartTask]

/-- Every call leaves a socket with a started worker unchanged and starts no task. -/
theorem call_of_receiving {s : UdpSocket} (receiving : s.receiving = true) (c : Call) :
    (s.call c).2.1 = s ∧ (s.call c).2.2.countP SocketCall.isStartTask = 0 := by
  by_cases start : ∃ receiveConfig os, c = .startReceiving receiveConfig os
  · obtain ⟨receiveConfig, os, rfl⟩ := start
    simp [call, startReceiving_of_receiving receiving]
  · push_neg at start
    exact call_state_of_not_startReceiving s c start

theorem after_of_receiving {s : UdpSocket} (receiving : s.receiving = true) (calls : List Call) :
    s.after calls = s := by
  induction calls with
  | nil => rfl
  | cons c calls ih => rw [after_cons, (call_of_receiving receiving c).1, ih]

theorem taskStarts_run_of_receiving {s : UdpSocket} (receiving : s.receiving = true)
    (calls : List Call) : taskStarts (s.run calls) = 0 := by
  induction calls with
  | nil => rfl
  | cons c calls ih =>
      obtain ⟨same, none⟩ := call_of_receiving receiving c
      simp only [run, taskStarts_cons, none, same, ih]

/-- What `start_receiving` can do: succeed on a valid socket, registering its callback and
starting one task, or fail, starting none and leaving the task as it was. -/
theorem startReceiving_cases (s : UdpSocket) (receiveConfig : ReceiveConfig)
    (os : StartReceivingOs) :
    ((s.startReceiving receiveConfig os).1 = true ∧ Socket.isValid s.socket = true ∧
        (s.startReceiving receiveConfig os).2.1 = { s with
          serverReceiveCallback := receiveConfig.onReceiveCallback,
          task := some ⟨receiveConfig.bufferSize, true⟩ } ∧
        (s.startReceiving receiveConfig os).2.2.countP SocketCall.isStartTask = 1) ∨
      ((s.startReceiving receiveConfig os).1 = false ∧
        (s.startReceiving receiveConfig os).2.1.task = s.task ∧
        (s.startReceiving receiveConfig os).2.2.countP SocketCall.isStartTask = 0) := by
  unfold startReceiving
  cases s.receiving
  case true => exact .inr ⟨rfl, rfl, rfl⟩
  cases Socket.isValid s.socket
  case false => exact .inr ⟨rfl, rfl, rfl⟩
  cases os.bindOk
  case false => exact .inr ⟨rfl, rfl, rfl⟩
  cases receiveConfig.isMulticastEndpoint
  case false => exact .inl ⟨rfl, rfl, rfl, rfl⟩
  cases os.makeMulticastOk
  case false => exact .inr ⟨rfl, rfl, rfl⟩
  cases os.addMulticastGroupOk
  case false => exact .inr ⟨rfl, rfl, rfl⟩
  exact .inl ⟨rfl, rfl, rfl, rfl⟩

/-- A call on a socket without a started worker either succeeds in `start_receiving`,
starting exactly one task, or starts none and leaves the task as it was. -/
theorem call_of_not_receiving {s : UdpSocket} (idle : s.receiving = false) (c : Call) :
    ((s.call c).2.1.receiving = true ∧ (s.call c).2.2.countP SocketCall.isStartTask = 1) ∨
      ((s.call c).2.1.receiving = false ∧ (s.call c).2.2.countP SocketCall.isStartTask = 0) := by
  by_cases start : ∃ receiveConfig os, c = .startReceiving receiveConfig os
  · obtain ⟨receiveConfig, os, rfl⟩ := start
    rcases startReceiving_cases s receiveConfig os with ⟨-, -, state, one⟩ | ⟨-, task, none⟩
    · exact .inl ⟨by simp only [call, state, receiving]; rfl, one⟩
    · refine .inr ⟨?_, none⟩
      simp only [call, receiving, task]
      exact idle
  · push_neg at start
    obtain ⟨same, none⟩ := call_state_of_not_startReceiving s c start
    exact .inr ⟨by rw [same]; exact idle, none⟩

theorem taskStarts_run_le {s : UdpSocket} (idle : s.receiving = false) (calls : List Call) :
    taskStarts (s.run calls) ≤ 1 := by
  induction calls generalizing s with
  | nil => simp
  | cons c calls ih =>
      simp only [run, taskStarts_cons]
      rcases call_of_not_receiving idle c with ⟨started, one⟩ | ⟨stillIdle, none⟩
      · rw [one, taskStarts_run_of_receiving started]
      · rw [none, Nat.zero_add]
        exact ih stillIdle

/-- A successful `start_receiving` leaves the worker of its configuration running. -/
theorem receivingWith_of_startReceiving {s : UdpSocket} {receiveConfig : ReceiveConfig}
    {os : StartReceivingOs} (succeeded : (s.startReceiving receiveConfig os).1 = true) :
    ReceivingWith (s.startReceiving receiveConfig os).2.1 receiveConfig := by
  rcases startReceiving_cases s receiveConfig os with ⟨-, -, state, -⟩ | ⟨failed, -, -⟩
  · rw [state]
    exact ⟨rfl, rfl⟩
  · exact absurd (succeeded.symm.trans failed) (by decide)

theorem receivingWith_after {s : UdpSocket} {receiveConfig : ReceiveConfig}
    (receivingWith : ReceivingWith s receiveConfig) (calls : List Call) :
    ReceivingWith (s.after calls) receiveConfig := by
  rwa [after_of_receiving receivingWith.started]

/-- At most one receive loop per socket, whatever the OS returns; once `start_receiving`
has returned true the worker keeps that call's buffer size and callback, and later calls
return false before touching anything. -/
theorem start_receiving_fixes_worker (socket : Int) (calls : List Call) :
    taskStarts ((init socket).run calls) ≤ 1 ∧
      ∀ before receiveConfig os later,
        calls = before ++ .startReceiving receiveConfig os :: later →
        (((init socket).after before).startReceiving receiveConfig os).1 = true →
        KeepsWorker ((init socket).after (before ++ [.startReceiving receiveConfig os]))
          receiveConfig later := by
  refine ⟨taskStarts_run_le (s := init socket) rfl calls, ?_⟩
  rintro before receiveConfig os later - succeeded middle rest -
  have started := receivingWith_of_startReceiving succeeded
  rw [after_append, after_cons, after_nil] at *
  have receivingWith := receivingWith_after started middle
  exact ⟨receivingWith, fun _ _ _ _ => startReceiving_of_receiving receivingWith.started _ _⟩

/-- A fresh socket that starts receiving on port 5000 with callback `1`, and is then asked
to start receiving on port 6000 with callback `2`: one task is started, and the second
call returns false and leaves the first worker in place. -/
theorem start_receiving_twice_keeps_first :
    taskStarts ((init 3).run [.startReceiving ⟨5000, 64, false, "", some ⟨1⟩⟩ ⟨true, true, true⟩,
        .startReceiving ⟨6000, 128, false, "", some ⟨2⟩⟩ ⟨true, true, true⟩]) ≤ 1 ∧
      (((init 3).after []).startReceiving ⟨5000, 64, false, "", some ⟨1⟩⟩
          ⟨true, true, true⟩).1 = true ∧
      KeepsWorker ((init 3).after [.startReceiving ⟨5000, 64, false, "", some ⟨1⟩⟩ ⟨true, true, true⟩])
        ⟨5000, 64, false, "", some ⟨1⟩⟩
        [.startReceiving ⟨6000, 128, false, "", some ⟨2⟩⟩ ⟨true, true, true⟩] :=
  ⟨(start_receiving_fixes_worker 3 _).1, rfl,
    (start_receiving_fixes_worker 3 [.startReceiving ⟨5000, 64, false, "", some ⟨1⟩⟩ ⟨true, true, true⟩,
        .startReceiving ⟨6000, 128, false, "", some ⟨2⟩⟩ ⟨true, true, true⟩]).2 [] _ _ _ rfl rfl⟩

end UdpSocket

end Espp
