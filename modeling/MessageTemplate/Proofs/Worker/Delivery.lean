import MessageTemplate.Worker.Loop
import MessageTemplate.Worker.Program
/-! Delivering a message's outcome: one outcome, offered to its one stream, then one
acknowledgement; and the streams a checked configuration writes. -/
namespace MessageTemplate.Broker

variable {σ : Type}

/-! ### Commands a broker is given -/

/-- A command a worker gives a broker. -/
inductive Command where
  | add (stream : String) (fields : List (String × String))
  | ack (key group : String) (id : EntryId)
deriving DecidableEq, Repr

/-- A client that notes, beside its broker's state, every command it is given and whether the
broker carried it out. -/
def Client.recorded (b : Client σ) : Client (σ × List (Command × Bool)) where
  add s key fields :=
    let r := b.add s.1 key fields
    (r.1, (r.2, s.2 ++ [(.add key fields, r.1.toBool)]))
  ack s key group id :=
    let r := b.ack s.1 key group id
    (r.1, (r.2, s.2 ++ [(.ack key group id, r.1.toBool)]))

@[simp]
theorem Client.recorded_add (b : Client σ) (s : σ) (log : List (Command × Bool)) (key : String)
    (fields : List (String × String)) :
    b.recorded.add (s, log) key fields =
      ((b.add s key fields).1, ((b.add s key fields).2,
        log ++ [(.add key fields, (b.add s key fields).1.toBool)])) := rfl

@[simp]
theorem Client.recorded_ack (b : Client σ) (s : σ) (log : List (Command × Bool))
    (key group : String) (id : EntryId) :
    b.recorded.ack (s, log) key group id =
      ((b.ack s key group id).1, ((b.ack s key group id).2,
        log ++ [(.ack key group id, (b.ack s key group id).1.toBool)])) := rfl

end MessageTemplate.Broker

namespace MessageTemplate.Worker

open Broker Service

variable {σ : Type}

/-! ### Publishing -/

def Tried (stream payload : String) (n : Nat) (taken : Bool) (log : List (Command × Bool)) :
    Prop :=
  ∃ k, log = List.replicate k (.add stream [("data", payload)], false) ++
      (if taken then [(.add stream [("data", payload)], true)] else []) ∧
    if taken then k < n else k = n

theorem tried_zero (stream payload : String) : Tried stream payload 0 false [] :=
  ⟨0, by simp, rfl⟩

theorem tried_taken (stream payload : String) (n : Nat) :
    Tried stream payload (n + 1) true [(.add stream [("data", payload)], true)] :=
  ⟨0, by simp, by simp⟩

/-- A refusal in front of the additions of the remaining attempts. -/
theorem Tried.refused {stream payload : String} {n : Nat} {taken : Bool}
    {log : List (Command × Bool)} (h : Tried stream payload n taken log) :
    Tried stream payload (n + 1) taken ((.add stream [("data", payload)], false) :: log) := by
  obtain ⟨k, rfl, hk⟩ := h
  refine ⟨k + 1, by simp [List.replicate_succ], ?_⟩
  cases taken <;> simp_all

theorem publish_recorded (b : Client σ) (stream payload : String) (n : Nat) (s : σ)
    (log : List (Command × Bool)) :
    ∃ tried, (publish b.recorded stream payload n (s, log)).2.2 = log ++ tried ∧
      Tried stream payload n (publish b.recorded stream payload n (s, log)).1 tried := by
  induction n generalizing s log with
  | zero => exact ⟨[], by simp [publish], tried_zero stream payload⟩
  | succ n ih =>
    rw [publish, Client.recorded_add]
    rcases hadd : b.add s stream [("data", payload)] with ⟨_ | id, s'⟩
    · -- refused: the next attempts follow the refusal in the log
      obtain ⟨tried, hlog, htried⟩ := ih s' (log ++ [(.add stream [("data", payload)], false)])
      refine ⟨(.add stream [("data", payload)], false) :: tried, ?_, htried.refused⟩
      simpa [Except.toBool] using hlog
    · exact ⟨_, rfl, tried_taken stream payload n⟩

/-! ### Resolving a message -/

theorem errors_ne (rs : String) : rs ++ ".errors" ≠ rs := by
  intro h
  have := congrArg String.length h
  simp at this

/-- The outcome a message resolves to: the rendering of its request on the result stream
exactly when its data reads as a request that processes, and otherwise an error event on the
error stream naming the message and the request id read, empty when none was. -/
theorem resolve_outcome (E : Engines) (p : Processor) (rs time : String) (m : Message) :
    ((p.resolve E rs time m).1.stream = rs ↔
      ∃ r rendered, Request.ofData m.data = .ok r ∧ (p.process E (some r)).1 = .ok rendered) ∧
    (∀ r rendered, Request.ofData m.data = .ok r → (p.process E (some r)).1 = .ok rendered →
      (p.resolve E rs time m).1.payload = rendered.toJson time) ∧
    ((p.resolve E rs time m).1.stream ≠ rs → (p.resolve E rs time m).1.stream = rs ++ ".errors" ∧
      ∃ error, (p.resolve E rs time m).1.payload =
        errorEvent m.id (((Request.ofData m.data).toOption.map (·.requestId)).getD "") error
          time) := by
  unfold Processor.resolve
  rcases hr : Request.ofData m.data with e | r <;> dsimp only
  · -- the data does not read as a request
    refine ⟨⟨fun h => absurd h (errors_ne rs), ?_⟩, ?_, fun _ => ⟨rfl, e, rfl⟩⟩
    · rintro ⟨r, _, hr', _⟩
      cases hr'
    · intro r _ hr'
      cases hr'
  · rcases hp : p.process E (some r) with ⟨e | rendered, p'⟩ <;> dsimp only
    · -- the request does not process
      refine ⟨⟨fun h => absurd h (errors_ne rs), ?_⟩, ?_, fun _ => ⟨rfl, e, rfl⟩⟩
      · rintro ⟨r', rendered, hr', hp'⟩
        cases hr'
        rw [hp] at hp'
        cases hp'
      · intro r' rendered hr' hp'
        cases hr'
        rw [hp] at hp'
        cases hp'
    · refine ⟨⟨fun _ => ⟨r, rendered, rfl, by rw [hp]⟩, fun _ => rfl⟩, ?_, fun h => absurd rfl h⟩
      intro r' rendered' hr' hp'
      cases hr'
      rw [hp] at hp'
      cases hp'
      rfl

/-! ### Handling a message -/

theorem handle_recorded (c : Consumer) (E : Engines) (time : String) (p : Processor)
    (b : Client σ) (s : σ) (log : List (Command × Bool)) (e : Entry) :
    ∃ acked, (c.handle E time p b.recorded (s, log) e).2.2 =
      (publish b.recorded
        (p.resolve E c.resultStream time ⟨e.id.text, (e.field? "data").map .str⟩).1.stream
        ((p.resolve E c.resultStream time ⟨e.id.text, (e.field? "data").map .str⟩).1.payload.render
          false) c.attempts (s, log)).2.2 ++ [(.ack c.streamKey c.group e.id, acked)] := by
  unfold Consumer.handle
  rcases p.resolve E c.resultStream time ⟨e.id.text, (e.field? "data").map .str⟩ with ⟨out, p'⟩
  exact ⟨_, rfl⟩

/-- Whatever engines the processor calls, every message resolves to one outcome, on the result
stream with the rendering exactly when its request reads and processes, else on the error stream
with an error event naming the message and the request read; against any broker, handling it
offers that outcome only to its stream, at most once per attempt and up to the first offer
taken, then acknowledges the message once. -/
theorem handle_delivers (c : Consumer) (E : Engines) (time : String) (p : Processor)
    (b : Client σ) (s : σ) (log : List (Command × Bool)) (e : Entry) :
    let m : Message := ⟨e.id.text, (e.field? "data").map .str⟩
    let out := (p.resolve E c.resultStream time m).1
    ((out.stream = c.resultStream ↔
      ∃ r rendered, Request.ofData m.data = .ok r ∧ (p.process E (some r)).1 = .ok rendered) ∧
    (∀ r rendered, Request.ofData m.data = .ok r → (p.process E (some r)).1 = .ok rendered →
      out.payload = rendered.toJson time) ∧
    (out.stream ≠ c.resultStream → out.stream = c.errorStream ∧
      ∃ error, out.payload =
        errorEvent e.id.text (((Request.ofData m.data).toOption.map (·.requestId)).getD "") error
          time)) ∧
    ∃ tried taken acked, Tried out.stream (out.payload.render false) c.attempts taken tried ∧
      (c.handle E time p b.recorded (s, log) e).2.2 =
        log ++ tried ++ [(.ack c.streamKey c.group e.id, acked)] := by
  intro m out
  refine ⟨resolve_outcome E p c.resultStream time m, ?_⟩
  obtain ⟨tried, hlog, htried⟩ :=
    publish_recorded b out.stream (out.payload.render false) c.attempts s log
  obtain ⟨acked, hhandle⟩ := handle_recorded c E time p b s log e
  exact ⟨tried, _, acked, htried, hhandle.trans (by rw [hlog])⟩

/-! ### The streams a worker writes -/

theorem Config.resultStream_ne_of_validate {c : Config} (hc : c.validate = .ok ()) :
    c.resultStream ≠ c.streamKey := by
  intro h
  simp [Config.validate, h, apply_ite (· = Except.ok ())] at hc

/-- Whatever engines the processor calls, under a configuration that passes its check no outcome
goes to the request stream exactly when the error stream is not the request stream: a message
without data sends its error event there. -/
theorem outcomes_avoid_requests_iff (E : Engines) (c : Config) (hc : c.validate = .ok ()) :
    (∀ (p : Processor) (time : String) (m : Message),
      (p.resolve E c.consumer.resultStream time m).1.stream ≠ c.consumer.streamKey) ↔
      c.errorStream ≠ c.streamKey := by
  have hres := Config.resultStream_ne_of_validate hc
  constructor
  · intro h
    -- a message without data resolves to an error event
    have hout := resolve_outcome E ⟨{}, Cache.empty⟩ c.resultStream "" ⟨"", none⟩
    have hne : (Processor.resolve E ⟨{}, Cache.empty⟩ c.resultStream "" ⟨"", none⟩).1.stream ≠
        c.resultStream := by
      rw [Ne, hout.1]
      rintro ⟨r, _, hr, _⟩
      cases hr
    show c.resultStream ++ ".errors" ≠ c.streamKey
    rw [← (hout.2.2 hne).1]
    exact h _ _ _
  · intro h p time m
    by_cases hm : (p.resolve E c.resultStream time m).1.stream = c.resultStream
    · exact hm ▸ hres
    · exact ((resolve_outcome E p c.resultStream time m).2.2 hm).1 ▸ h

theorem outcomes_avoid_requests_default :
    ({} : Config).validate = .ok () ∧
      ((∀ (p : Processor) (time : String) (m : Message),
        (p.resolve Engines.builtin ({} : Config).consumer.resultStream time m).1.stream ≠
          ({} : Config).consumer.streamKey) ↔
        ({} : Config).errorStream ≠ ({} : Config).streamKey) :=
  ⟨rfl, outcomes_avoid_requests_iff Engines.builtin {} rfl⟩

/-- A request stream named as the result stream followed by `.errors` passes the check, and an
outcome is then published into the stream the worker reads: the error event of a message
without data. -/
theorem error_event_into_requests :
    ({ streamKey := "format.rendered.errors" } : Config).validate = .ok () ∧
      (Processor.resolve Engines.builtin ⟨{}, Cache.empty⟩
        ({ streamKey := "format.rendered.errors" } : Config).consumer.resultStream "<time>"
        ⟨"1-0", none⟩).1.stream = ({ streamKey := "format.rendered.errors" } : Config).streamKey :=
  ⟨rfl, rfl⟩

end MessageTemplate.Worker
