import VulkanExec.Diagnostic.Message

/-!
# Sinks

A sink takes the messages of the validation layers and hands each to its handler. A handler may
call back into the driver, which raises further messages before the handler has returned. A sink
whose handler is running does not enter it again: such a message goes to the log. A handler that
panics does not take the sink down; the panic is logged and the handler serves the next message.

A panic carries a payload. The sink that catches the panic drops the payload at its end, outside of
what it guards but before it gives the handler back. Dropping a text does nothing; another payload
may raise messages, and if it panics then the call to the sink unwinds.

## Main definitions

- `Reaction`: what code does that is handed a message: the messages it raises, and how it ends;
- `Ending`: how a call ends, by a return or by a panic with its payload;
- `Handler`: the log, or a function from the messages taken so far and a new one to a reaction;
- `Delivery`: what becomes of a message: a handler takes it, or it is logged;
- `Channel`: sinks and the list of those that hear every message a handler raises;
- `Channel.emit`: send a message to one sink, with all that comes of it;
- `Channel.send`: the same without its ending;
- `Channel.broadcast`: send a message to every listener.
-/

namespace VulkanExec

/-- What code does: it raises messages, in order, and returns or panics at their end. The payload of
a panic is told by what is done when it is dropped. -/
inductive Reaction where
  | returned (raised : List Diagnostic)
  | panicked (raised : List Diagnostic) (payload : Reaction)

/-- How a call ends: it returns to its caller, or a panic unwinds through it with its payload. -/
inductive Ending where
  | returned
  | unwound (payload : Reaction)

namespace Reaction

/-- The messages that are raised. -/
def raised : Reaction → List Diagnostic
  | returned messages | panicked messages _ => messages

/-- How the code ends if nothing unwinds through it before. -/
def ending : Reaction → Ending
  | returned _ => .returned
  | panicked _ payload => .unwound payload

/-- Code that raises messages and then returns, or panics with a text, which is dropped silently. -/
def plain (messages : List Diagnostic) (panics : Bool) : Reaction :=
  if panics then panicked messages (returned []) else returned messages

end Reaction

/-- Who takes the messages of a sink. A handler may remember the messages that it took. -/
inductive Handler where
  | logging
  | custom (react : List Diagnostic → Diagnostic → Reaction)

/-- A handler and the messages that it took so far, the oldest first. -/
structure Sink where
  handler : Handler
  taken : List Diagnostic

/-- A sink as debug output shows it: nothing of it is told. -/
def Sink.describe (_ : Sink) : String := "DiagnosticSink \x7b .. \x7d"

/-- A sink is known by its place in a channel. -/
abbrev SinkId := Nat

/-- What becomes of a message. -/
inductive Delivery where
  | handled (sink : SinkId) (d : Diagnostic)
  | logged (r : LogRecord)
  deriving DecidableEq, Repr

/-- The log record of a panic on a message. -/
def Diagnostic.panicRecord (d : Diagnostic) : LogRecord :=
  ⟨.error, "diagnostic handler panicked on " ++ d.severity.label ++ " message: " ++ d.message⟩

/-- Sinks, and which of them hear a message that a handler raises, in order. -/
structure Channel where
  sinks : List Sink
  listeners : List SinkId

/-- What a call comes to: all that it delivers, the channel after it, and how it ends. -/
structure Sent where
  deliveries : List Delivery
  channel : Channel
  ending : Ending

namespace Channel

/-- Note that the handler of a sink takes a message. -/
def take (channel : Channel) (id : SinkId) (d : Diagnostic) : Channel :=
  { channel with sinks := channel.sinks.modify id fun s => { s with taken := s.taken ++ [d] } }

/-- The calls that raise messages, each message to every listener in turn. -/
def raises (channel : Channel) (raised : List Diagnostic) : List (SinkId × Diagnostic) :=
  raised.flatMap fun m => channel.listeners.map (·, m)

/-- Make one call after the other, up to the first that unwinds. If all of them return then the end
is `last`. -/
def callAll (call : Channel → SinkId × Diagnostic → Sent) (channel : Channel) (last : Ending) :
    List (SinkId × Diagnostic) → Sent
  | [] => ⟨[], channel, last⟩
  | m :: rest =>
    let first := call channel m
    match first.ending with
    | .unwound _ => first
    | .returned =>
      let others := callAll call first.channel last rest
      ⟨first.deliveries ++ others.deliveries, others.channel, others.ending⟩

/-- Run code that raises its messages by `call`. -/
def execute (call : Channel → SinkId × Diagnostic → Sent) (channel : Channel) (code : Reaction) :
    Sent :=
  callAll call channel code.ending (channel.raises code.raised)

/-- Run the handler of a sink on a message. A panic is caught and logged, and its payload is dropped
while the handler is still in use. -/
def serve (call : Channel → SinkId × Diagnostic → Sent) (channel : Channel) (id : SinkId)
    (d : Diagnostic) (reaction : Reaction) : Sent :=
  let body := execute call (channel.take id d) reaction
  match body.ending with
  | .returned => ⟨.handled id d :: body.deliveries, body.channel, .returned⟩
  | .unwound payload =>
    let dropped := execute call body.channel payload
    ⟨.handled id d :: body.deliveries ++ .logged d.panicRecord :: dropped.deliveries,
      dropped.channel, dropped.ending⟩

/-- Send a message to the sink `id` while the handlers of the sinks in `idle` are not running. A
handler runs with its own sink taken out of `idle`. -/
def emitAmong (idle : List SinkId) (channel : Channel) (id : SinkId) (d : Diagnostic) : Sent :=
  if _ : id ∈ idle then
    match channel.sinks[id]? with
    | some ⟨.custom react, taken⟩ =>
      serve (fun c m => emitAmong (idle.erase id) c m.1 m.2) channel id d (react taken d)
    | _ => ⟨[.logged d.record], channel, .returned⟩
  else ⟨[.logged d.record], channel, .returned⟩
termination_by idle.length
decreasing_by
  have := List.length_erase_of_mem ‹id ∈ idle›
  have := List.length_pos_of_mem ‹id ∈ idle›
  omega

/-- Send a message to the sink `id` while no handler is running. -/
def emit (channel : Channel) (id : SinkId) (d : Diagnostic) : Sent :=
  emitAmong (List.range channel.sinks.length) channel id d

/-- Send a message to the sink `id`, however the call ends. -/
def send (channel : Channel) (id : SinkId) (d : Diagnostic) : List Delivery × Channel :=
  ((channel.emit id d).deliveries, (channel.emit id d).channel)

/-- Run a step over the members of a list, and keep all that comes out. -/
def sequence {α : Type} (step : Channel → α → List Delivery × Channel) (channel : Channel) :
    List α → List Delivery × Channel
  | [] => ([], channel)
  | a :: rest =>
    let first := step channel a
    let others := sequence step first.2 rest
    (first.1 ++ others.1, others.2)

/-- Send a message to every listener in turn, however the calls before have ended. -/
def broadcast (channel : Channel) (d : Diagnostic) : List Delivery × Channel :=
  sequence (fun c listener => c.send listener d) channel channel.listeners

end Channel

end VulkanExec
