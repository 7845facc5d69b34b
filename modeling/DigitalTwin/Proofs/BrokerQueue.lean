import DigitalTwin.Broker
import DigitalTwin.Proofs.Table
import Mathlib.Data.List.Induction

/-! The broker told by what was done with it. Who handles a message is whoever subscribed last to its key, and what
    waits in the queue is what was queued since the last run. So a run takes exactly the messages that were queued
    since the run before it, and whatever the handlers do, they change nothing of this. -/

namespace DigitalTwin

/-- What is done with a broker. -/
inductive BrokerCall (η : Type) where
  | subscribe (key : RouteKey) (handler : η)
  | unsubscribe (key : RouteKey)
  | publish (m : Message)
  | queue (m : Message)
  | run
deriving DecidableEq

/-- What a call gives back: nothing, or how many messages a run delivered, and the run that is started within it. -/
inductive BrokerReply where
  | done
  | ran (delivered nested : Nat)
deriving DecidableEq

namespace BrokerCall

variable {η : Type}

/-- What a call says about who handles a key: somebody, nobody, or nothing at all. -/
def handler? (key : RouteKey) : BrokerCall η → Option (Option η)
  | .subscribe k h => if k = key then some (some h) else none
  | .unsubscribe k => if k = key then some none else none
  | _ => none

def queued? : BrokerCall η → Option Message
  | .queue m => some m
  | _ => none

def isRun : BrokerCall η → Bool
  | .run => true
  | _ => false

/-! ### What past calls tell -/

section
variable (past : List (BrokerCall η))

/-- Who handles a key: whoever subscribed to it last, unless the key was unsubscribed since. -/
def lastHandler? (key : RouteKey) : Option η := (past.reverse.findSome? (handler? key)).join

/-- A message with its handler, if it has one. -/
def assigned? (m : Message) : Option (η × Message) := (lastHandler? past m.key).map (·, m)

/-- The messages that were queued since the last run, in order. -/
def waiting : List Message := (past.reverse.takeWhile fun call => !call.isRun).reverse.filterMap queued?

/-- The messages that a call takes from the queue. -/
def taken : BrokerCall η → List Message
  | .run => waiting past
  | _ => []

/-- The handlers that a call sets to work, each with its message, in order. -/
def handed : BrokerCall η → List (η × Message)
  | .publish m => (assigned? past m).toList
  | .run => (waiting past).filterMap (assigned? past)
  | _ => []

/-- What a call gives back: a run the number of the messages that it took and that found a handler. -/
def reply : BrokerCall η → BrokerReply
  | .run => .ran ((waiting past).countP fun m => (assigned? past m).isSome) 0
  | _ => .done

end

variable {past : List (BrokerCall η)} {call : BrokerCall η}

theorem lastHandler?_concat (key : RouteKey) :
    lastHandler? (past ++ [call]) key = ((call.handler? key).getD (lastHandler? past key)) := by
  unfold lastHandler?
  rw [List.reverse_append, List.reverse_singleton, List.singleton_append, List.findSome?_cons]
  cases call.handler? key <;> rfl

theorem waiting_concat :
    waiting (past ++ [call]) = if call.isRun then [] else waiting past ++ call.queued?.toList := by
  unfold waiting
  rw [List.reverse_append, List.reverse_singleton, List.singleton_append, List.takeWhile_cons]
  cases hr : call.isRun with
  | true => rfl
  | false =>
    simp only [Bool.not_false, if_true, List.reverse_cons, List.filterMap_append, Bool.false_eq_true, if_false]
    cases hq : call.queued? <;> simp [hq]

theorem waiting_concat_taken :
    taken past call ++ waiting (past ++ [call]) = waiting past ++ call.queued?.toList := by
  rw [waiting_concat]
  cases call <;> simp [taken, isRun, queued?]

end BrokerCall

namespace Broker

open BrokerCall

variable {η σ : Type} {b : Broker η} {past : List (BrokerCall η)}

/-- A broker, what its handlers work on, what the calls gave back, and the messages that were taken from its queue. -/
structure Course (η σ : Type) where
  broker : Broker η
  state : σ
  replies : List BrokerReply
  taken : List Message

/-- A new broker whose handlers are to work on a state. -/
def Course.start (s : σ) : Course η σ := ⟨.empty, s, [], []⟩

/-- Makes a call. What a run takes is what it gets when it takes the queue. -/
def Course.perform (work : Work η σ) (c : Course η σ) : BrokerCall η → Course η σ
  | .subscribe key handler => { c with broker := c.broker.subscribe key handler, replies := c.replies ++ [.done] }
  | .unsubscribe key => { c with broker := c.broker.unsubscribe key, replies := c.replies ++ [.done] }
  | .publish m => { c with state := c.broker.publish work m c.state, replies := c.replies ++ [.done] }
  | .queue m => { c with broker := c.broker.enqueue m, replies := c.replies ++ [.done] }
  | .run =>
    let (run, broker) := c.broker.run work c.state
    { broker
      state := run.after
      replies := c.replies ++ [.ran run.delivered run.nested]
      taken := c.taken ++ (c.broker.begin?.map (·.1)).getD [] }

/-- Makes calls one after another. -/
def Course.performAll (work : Work η σ) (c : Course η σ) (calls : List (BrokerCall η)) : Course η σ :=
  calls.foldl (perform work) c

/-- The handlers at work on messages, one after another. Whether they fail is of no account. -/
def workAll (work : Work η σ) (s : σ) (handed : List (η × Message)) : σ :=
  handed.foldl (fun s p => (work p.1 p.2 s).2) s

theorem deliver_eq (b : Broker η) (work : Work η σ) (m : Message) (s : σ) :
    b.deliver work m s =
      ((b.handler? m).isSome, workAll work s ((b.handler? m).map (·, m)).toList) := by
  unfold deliver
  cases b.handler? m <;> rfl

/-- A loop goes through the messages in front of the mark, and through nothing else. --/
theorem loop_eq (b : Broker η) (work : Work η σ) (again : σ → Nat) (messages : List Message) (run : Run σ) :
    b.loop work again (messages.map .message ++ [.mark]) run =
      let s := workAll work run.after (messages.filterMap fun m => (b.handler? m).map (·, m))
      ⟨run.delivered + messages.countP fun m => (b.handler? m).isSome, again s, s⟩ := by
  induction messages generalizing run with
  | nil => rfl
  | cons m rest ih =>
    rw [List.map_cons, List.cons_append]
    unfold loop
    rw [deliver_eq]
    dsimp only
    rw [ih, List.countP_cons, List.filterMap_cons]
    cases b.handler? m with
    | none => rfl
    | some h =>
      have counted (n : Nat) : run.delivered + 1 + n = run.delivered + (n + 1) := by omega
      simp only [Option.isSome_some, if_true, counted]
      rfl

/-- A run that is started while another one has the queue delivers nothing and changes nothing. --/
theorem run_of_running (h : b.running = true) (work : Work η σ) (s : σ) : b.run work s = (⟨0, 0, s⟩, b) := by
  unfold run begin?
  rw [if_pos h]

theorem begin?_of_idle (h : b.running = false) :
    b.begin? = some (b.queue, { b with queue := [], running := true }) := by
  unfold begin?
  rw [h]
  rfl

theorem run_of_idle (h : b.running = false) (work : Work η σ) (s : σ) :
    b.run work s =
      (⟨b.queue.countP fun m => (b.handler? m).isSome, 0,
        workAll work s (b.queue.filterMap fun m => (b.handler? m).map (·, m))⟩, { b with queue := [] }) := by
  unfold run
  rw [begin?_of_idle h]
  dsimp only
  rw [loop_eq]
  obtain ⟨handlers, queue, running⟩ := b
  cases h
  simp only [Nat.zero_add]
  rfl

/-! ### A broker and the calls behind it -/

/-- A broker is as the past calls tell. -/
structure Told (b : Broker η) (past : List (BrokerCall η)) : Prop where
  handlers : ∀ key, b.handlers.get? key = lastHandler? past key
  queue : b.queue = waiting past
  idle : b.running = false

namespace Told

theorem empty : Told (.empty : Broker η) [] := ⟨fun _ => rfl, rfl, rfl⟩

theorem assigned?_eq (h : Told b past) (m : Message) : (b.handler? m).map (·, m) = assigned? past m := by
  unfold handler? assigned?
  rw [h.handlers]

theorem isSome_eq (h : Told b past) (m : Message) : (b.handler? m).isSome = (assigned? past m).isSome := by
  rw [← h.assigned?_eq, Option.isSome_map]

/-- A call that is no run leaves a broker as told if it leaves the handlers so and queues what it has to. --/
theorem concat {b' : Broker η} {call : BrokerCall η} (h : Told b past) (hc : call.isRun = false)
    (handlers : ∀ key, b'.handlers.get? key = (call.handler? key).getD (b.handlers.get? key))
    (queue : b'.queue = b.queue ++ call.queued?.toList) (running : b'.running = b.running) :
    Told b' (past ++ [call]) where
  handlers key := by rw [handlers, lastHandler?_concat, h.handlers]
  queue := by rw [queue, waiting_concat, hc, h.queue]; rfl
  idle := running.trans h.idle

theorem subscribe (h : Told b past) (key : RouteKey) (handler : η) :
    Told (b.subscribe key handler) (past ++ [.subscribe key handler]) := by
  refine h.concat rfl (fun k => ?_) (List.append_nil _).symm rfl
  show (b.handlers.insert key handler).get? k = _
  rw [Table.get?_insert]
  by_cases hk : k = key
  · simp [BrokerCall.handler?, hk]
  · simp [BrokerCall.handler?, hk, Ne.symm hk]

theorem unsubscribe (h : Told b past) (key : RouteKey) : Told (b.unsubscribe key) (past ++ [.unsubscribe key]) := by
  refine h.concat rfl (fun k => ?_) (List.append_nil _).symm rfl
  show (b.handlers.erase key).get? k = _
  rw [Table.get?_erase]
  by_cases hk : k = key
  · simp [BrokerCall.handler?, hk]
  · simp [BrokerCall.handler?, hk, Ne.symm hk]

theorem run (h : Told b past) : Told { b with queue := [] } (past ++ [.run]) where
  handlers key := by
    rw [lastHandler?_concat]
    exact h.handlers key
  queue := by rw [waiting_concat]; rfl
  idle := h.idle

end Told

/-- What a call does to a broker with past calls behind it. -/
structure Performed (work : Work η σ) (past : List (BrokerCall η)) (call : BrokerCall η) (c c' : Course η σ) :
    Prop where
  /-- A call gives back what is due to it. A run gives back how many of the messages that it took found a handler, and
  the run that is started within it gives back zero. -/
  reply : c'.replies = c.replies ++ [reply past call]
  /-- A run takes what was queued since the run before it, in the order of queueing, and nothing else takes anything. -/
  taken : c'.taken = c.taken ++ taken past call
  /-- The message that is published, or each message that a run takes, is handled once by the last subscriber of its
  key, in order, and no other message is handled. -/
  handled : c'.state = workAll work c.state (handed past call)
  /-- The broker is as the calls tell, and its queue is free for the next run. -/
  told : Told c'.broker (past ++ [call])

theorem Told.perform {c : Course η σ} (h : Told c.broker past) (work : Work η σ) (call : BrokerCall η) :
    Performed work past call c (c.perform work call) := by
  cases call with
  | subscribe key handler => exact ⟨rfl, (List.append_nil _).symm, rfl, h.subscribe key handler⟩
  | unsubscribe key => exact ⟨rfl, (List.append_nil _).symm, rfl, h.unsubscribe key⟩
  | publish m =>
    refine ⟨rfl, (List.append_nil _).symm, ?_, h.concat rfl (fun _ => rfl) (List.append_nil _).symm rfl⟩
    show (c.broker.deliver work m c.state).2 = _
    rw [deliver_eq, h.assigned?_eq]
    rfl
  | queue m => exact ⟨rfl, (List.append_nil _).symm, rfl, h.concat rfl (fun _ => rfl) rfl rfl⟩
  | run =>
    have ran := run_of_idle h.idle work c.state
    simp only [h.queue, h.assigned?_eq, h.isSome_eq] at ran
    have begun := begin?_of_idle h.idle
    have performed : c.perform work .run =
        { broker := { c.broker with queue := [] }
          state := workAll work c.state (handed past .run)
          replies := c.replies ++ [BrokerCall.reply past .run]
          taken := c.taken ++ waiting past } := by
      unfold Course.perform
      rw [ran, begun, h.queue]
      rfl
    rw [performed]
    exact ⟨rfl, rfl, rfl, h.run⟩

theorem Course.performAll_concat (work : Work η σ) (c : Course η σ) (past : List (BrokerCall η)) (call : BrokerCall η) :
    c.performAll work (past ++ [call]) = (c.performAll work past).perform work call := by
  unfold performAll
  rw [List.foldl_append]
  rfl

/-- The broker behind any calls is as they tell, and what was taken from its queue and what waits there are together
    what was queued, each message once and in order. --/
theorem told_performAll (work : Work η σ) (s : σ) (past : List (BrokerCall η)) :
    let c := (Course.start s).performAll work past
    Told c.broker past ∧ c.taken ++ c.broker.queue = past.filterMap queued? := by
  induction past using List.reverseRecOn with
  | nil => exact ⟨.empty, rfl⟩
  | append_singleton past call ih =>
    obtain ⟨told, sent⟩ := ih
    have performed := told.perform work call
    rw [← Course.performAll_concat] at performed
    refine ⟨performed.told, ?_⟩
    rw [performed.taken, performed.told.queue, List.append_assoc, waiting_concat_taken, ← told.queue,
      ← List.append_assoc, sent, List.filterMap_append]
    cases hq : call.queued? <;> simp [hq]

/-- What the handlers do is of no account to the broker, to what calls give back and to what runs take. --/
theorem Course.perform_alike {σ' : Type} {c : Course η σ} {d : Course η σ'} (broker : c.broker = d.broker)
    (replies : c.replies = d.replies) (taken : c.taken = d.taken) (idle : c.broker.running = false)
    (work : Work η σ) (work' : Work η σ') (call : BrokerCall η) :
    let c := c.perform work call
    let d := d.perform work' call
    c.broker = d.broker ∧ c.replies = d.replies ∧ c.taken = d.taken := by
  obtain ⟨b, s, said, got⟩ := c
  obtain ⟨b', s', said', got'⟩ := d
  cases broker
  cases replies
  cases taken
  cases call with
  | run =>
    unfold perform
    rw [run_of_idle idle, run_of_idle idle]
    exact ⟨rfl, rfl, rfl⟩
  | _ => exact ⟨rfl, rfl, rfl⟩

theorem Course.performAll_alike {σ' : Type} (work : Work η σ) (work' : Work η σ') (s : σ) (s' : σ')
    (past : List (BrokerCall η)) :
    let c := (start s).performAll work past
    let d := (start s').performAll work' past
    c.broker = d.broker ∧ c.replies = d.replies ∧ c.taken = d.taken := by
  induction past using List.reverseRecOn with
  | nil => exact ⟨rfl, rfl, rfl⟩
  | append_singleton past call ih =>
    obtain ⟨broker, replies, taken⟩ := ih
    obtain ⟨told, -⟩ := told_performAll work s past
    rw [performAll_concat, performAll_concat]
    exact perform_alike broker replies taken told.idle work work' call

/-- Whatever was done with a broker and whatever is done next, with whatever handlers. A run takes what was queued since
    the run before, and what was ever taken and what still waits are together what was queued, each message once and
    in order. Each message that is published or taken is handled once by the last subscriber of its key, or by nobody
    if there is none, and a run counts those that are handled. Afterwards the queue is free for the next run; as long
    as a run has it, another one comes to nothing. What handlers do, failures included, changes nothing of all this
    but the state that they work on. --/
theorem performAll_exactly_once (work : Work η σ) (s : σ) (past : List (BrokerCall η)) (call : BrokerCall η) :
    let c := (Course.start s).performAll work past
    Performed work past call c (c.perform work call) ∧
      c.broker.running = false ∧
      c.taken ++ c.broker.queue = past.filterMap queued? ∧
      (∀ messages busy, c.broker.begin? = some (messages, busy) →
        messages = waiting past ∧ ∀ s', busy.run work s' = (⟨0, 0, s'⟩, busy)) ∧
      ∀ (σ' : Type) (work' : Work η σ') (s' : σ'),
        let d := (Course.start s').performAll work' past
        d.broker = c.broker ∧ d.replies = c.replies ∧ d.taken = c.taken := by
  intro c
  obtain ⟨told, sent⟩ := told_performAll work s past
  refine ⟨told.perform work call, told.idle, sent, fun messages busy hb => ?_, fun σ' work' s' => ?_⟩
  · rw [begin?_of_idle told.idle] at hb
    cases hb
    exact ⟨told.queue, run_of_running rfl work⟩
  · exact Course.performAll_alike work' work s' s past

end Broker
end DigitalTwin
