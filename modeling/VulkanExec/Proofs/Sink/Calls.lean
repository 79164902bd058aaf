import VulkanExec.Proofs.Sink.Delivery

/-!
# Calls between sinks and handlers

A sink borrows its handler for the time of a call and gives it back however the call ends. The
borrows and the unwinding are written out here, one step of the sink after the other: a call that
finds the handler borrowed logs the message, a panic unwinds through calls until a sink catches it,
and the payload of the panic is dropped outside of what the sink guards, while the handler is still
borrowed.

## Main definitions

- `Call`, `Guarded`: what is called, and which handlers are borrowed;
- `Guarded.Calls`: what a call does;
- `Guarded.outcome`: what the sinks compute of a call.

The main statement, `Guarded.calls_iff`, says that a call does what the sinks compute, that it does
nothing else, and that it gives back every handler.
-/

namespace VulkanExec

/-- What is called: a sink with a message, or code that calls sinks, one after the other, and then
ends as `last` says. -/
inductive Call where
  | emit (sink : SinkId) (d : Diagnostic)
  | body (raised : List (SinkId × Diagnostic)) (last : Ending)

/-- The code of a reaction, which raises its messages to the listeners of a channel. -/
def Channel.code (channel : Channel) (reaction : Reaction) : Call :=
  .body (channel.raises reaction.raised) reaction.ending

/-- A channel, and the sinks whose handlers are borrowed. -/
structure Guarded where
  channel : Channel
  borrowed : List SinkId

/-- What a call does. A sink tries to borrow its handler and logs the message if it cannot. It
catches what unwinds out of the handler and logs it; then the payload is dropped, and the call ends
as this does. The handler is given back at the end. A body is left at the first call that
unwinds. -/
inductive Guarded.Calls : Guarded → Call → List Delivery → Ending → Guarded → Prop where
  | busy {s : Guarded} {sink : SinkId} {d : Diagnostic} (hborrowed : sink ∈ s.borrowed) :
      Calls s (.emit sink d) [.logged d.record] .returned s
  | written {s : Guarded} {sink : SinkId} {d : Diagnostic} (hfree : sink ∉ s.borrowed)
      (hhandler : ∀ react, s.channel.handler? sink ≠ some (.custom react)) :
      Calls s (.emit sink d) [.logged d.record] .returned s
  | handled {s t : Guarded} {sink : SinkId} {d : Diagnostic}
      {react : List Diagnostic → Diagnostic → Reaction} {taken : List Diagnostic}
      {deliveries : List Delivery} (hfree : sink ∉ s.borrowed)
      (hsink : s.channel.sinks[sink]? = some ⟨.custom react, taken⟩)
      (running : Calls ⟨s.channel.take sink d, sink :: s.borrowed⟩
        ((s.channel.take sink d).code (react taken d)) deliveries .returned t) :
      Calls s (.emit sink d) (.handled sink d :: deliveries) .returned
        ⟨t.channel, t.borrowed.erase sink⟩
  | caught {s t u : Guarded} {sink : SinkId} {d : Diagnostic}
      {react : List Diagnostic → Diagnostic → Reaction} {taken : List Diagnostic}
      {payload : Reaction} {deliveries dropped : List Delivery} {ending : Ending}
      (hfree : sink ∉ s.borrowed)
      (hsink : s.channel.sinks[sink]? = some ⟨.custom react, taken⟩)
      (running : Calls ⟨s.channel.take sink d, sink :: s.borrowed⟩
        ((s.channel.take sink d).code (react taken d)) deliveries (.unwound payload) t)
      (dropping : Calls t (t.channel.code payload) dropped ending u) :
      Calls s (.emit sink d) (.handled sink d :: deliveries ++ .logged d.panicRecord :: dropped)
        ending ⟨u.channel, u.borrowed.erase sink⟩
  | finished {s : Guarded} {last : Ending} : Calls s (.body [] last) [] last s
  | raised {s t u : Guarded} {m : SinkId × Diagnostic} {rest : List (SinkId × Diagnostic)}
      {last : Ending} {first second : List Delivery} {ending : Ending}
      (head : Calls s (.emit m.1 m.2) first .returned t)
      (tail : Calls t (.body rest last) second ending u) :
      Calls s (.body (m :: rest) last) (first ++ second) ending u
  | torn {s t : Guarded} {m : SinkId × Diagnostic} {rest : List (SinkId × Diagnostic)}
      {last : Ending} {first : List Delivery} {payload : Reaction}
      (head : Calls s (.emit m.1 m.2) first (.unwound payload) t) :
      Calls s (.body (m :: rest) last) first (.unwound payload) t

/-! ## What sinks compute -/

namespace Channel

variable {channel : Channel} {call : Channel → SinkId × Diagnostic → Sent} {last : Ending}
  {m : SinkId × Diagnostic} {rest : List (SinkId × Diagnostic)} {sink : SinkId} {d : Diagnostic}
  {handler : Handler} {reaction payload : Reaction} {idle : List SinkId}

theorem handler?_eq_some_iff : channel.handler? sink = some handler ↔
    ∃ taken, channel.sinks[sink]? = some ⟨handler, taken⟩ := by
  rw [handler?, Option.map_eq_some_iff]
  constructor
  · rintro ⟨⟨_, taken⟩, hsink, rfl⟩
    exact ⟨taken, hsink⟩
  · rintro ⟨taken, hsink⟩
    exact ⟨_, hsink, rfl⟩

theorem callAll_cons_of_returned (h : (call channel m).ending = .returned) :
    callAll call channel last (m :: rest) =
      ⟨(call channel m).deliveries ++ (callAll call (call channel m).channel last rest).deliveries,
        (callAll call (call channel m).channel last rest).channel,
        (callAll call (call channel m).channel last rest).ending⟩ := by
  rw [callAll, h]

theorem callAll_cons_of_unwound (h : (call channel m).ending = .unwound payload) :
    callAll call channel last (m :: rest) = call channel m := by
  rw [callAll, h]

theorem serve_of_returned
    (h : (execute call (channel.take sink d) reaction).ending = .returned) :
    serve call channel sink d reaction =
      ⟨.handled sink d :: (execute call (channel.take sink d) reaction).deliveries,
        (execute call (channel.take sink d) reaction).channel, .returned⟩ := by
  rw [serve, h]

theorem serve_of_unwound
    (h : (execute call (channel.take sink d) reaction).ending = .unwound payload) :
    serve call channel sink d reaction =
      ⟨.handled sink d :: (execute call (channel.take sink d) reaction).deliveries ++
          .logged d.panicRecord ::
            (execute call (execute call (channel.take sink d) reaction).channel payload).deliveries,
        (execute call (execute call (channel.take sink d) reaction).channel payload).channel,
        (execute call (execute call (channel.take sink d) reaction).channel payload).ending⟩ := by
  rw [serve, h]

/-- A message is logged if its sink is borrowed or has nobody else for it. -/
theorem emitAmong_of_unserved
    (h : sink ∈ idle → ∀ react, channel.handler? sink ≠ some (.custom react)) :
    emitAmong idle channel sink d = ⟨[.logged d.record], channel, .returned⟩ := by
  rw [emitAmong]
  split
  · next hidle =>
    split
    · next react taken hsink => exact absurd (congrArg (Option.map Sink.handler) hsink) (h hidle _)
    · rfl
  · rfl

theorem emitAmong_of_served {react : List Diagnostic → Diagnostic → Reaction}
    {taken : List Diagnostic} (hidle : sink ∈ idle)
    (hsink : channel.sinks[sink]? = some ⟨.custom react, taken⟩) :
    emitAmong idle channel sink d =
      serve (fun c m => emitAmong (idle.erase sink) c m.1 m.2) channel sink d (react taken d) := by
  rw [emitAmong, dif_pos hidle, hsink]

/-- What holds of a message that is logged, and of one that a handler takes if it holds of what is
raised while the handler is not idle, holds of every message. -/
theorem emitAmong_induction {motive : List SinkId → Channel → SinkId → Diagnostic → Prop}
    (logged : ∀ idle (channel : Channel) sink d,
      (sink ∈ idle → ∀ react, channel.handler? sink ≠ some (.custom react)) →
        motive idle channel sink d)
    (served : ∀ idle (channel : Channel) sink d react taken, sink ∈ idle →
      channel.sinks[sink]? = some ⟨.custom react, taken⟩ →
        (∀ c (m : SinkId × Diagnostic), motive (idle.erase sink) c m.1 m.2) →
          motive idle channel sink d)
    (idle : List SinkId) (channel : Channel) (sink : SinkId) (d : Diagnostic) :
    motive idle channel sink d := by
  induction idle, channel, sink, d using emitAmong.induct with
  | case1 idle channel sink d hidle react taken hsink ih =>
    exact served idle channel sink d react taken hidle hsink ih
  | case2 idle channel sink d _ hnone =>
    refine logged idle channel sink d fun _ react hreact => ?_
    obtain ⟨taken, hsink⟩ := handler?_eq_some_iff.1 hreact
    exact hnone react taken hsink
  | case3 idle channel sink d hbusy =>
    exact logged idle channel sink d fun hidle => absurd hidle hbusy

end Channel

/-! ## Calls are what sinks compute -/

namespace Guarded

open Channel

variable {s t : Guarded} {idle : List SinkId} {sink : SinkId} {d : Diagnostic}
  {deliveries : List Delivery} {ending : Ending}

/-- The idle sinks are those whose handlers are not borrowed. -/
structure Apart (idle : List SinkId) (s : Guarded) : Prop where
  nodup : idle.Nodup
  mem_iff : ∀ sink react, s.channel.handler? sink = some (.custom react) →
    (sink ∈ idle ↔ sink ∉ s.borrowed)

theorem Apart.kept {c : Channel} (h : Apart idle s) (hkept : s.channel.Kept c) :
    Apart idle ⟨c, s.borrowed⟩ :=
  ⟨h.nodup, fun sink react hsink => h.mem_iff sink react (hkept.handler? sink ▸ hsink)⟩

theorem Apart.borrow (h : Apart idle s) (sink : SinkId) :
    Apart (idle.erase sink) ⟨s.channel, sink :: s.borrowed⟩ where
  nodup := h.nodup.erase sink
  mem_iff other react hother := by
    rw [h.nodup.mem_erase_iff, h.mem_iff other react hother, List.mem_cons, not_or]

theorem apart_range (channel : Channel) :
    Apart (List.range channel.sinks.length) ⟨channel, []⟩ where
  nodup := List.nodup_range
  mem_iff sink react hsink := by
    obtain ⟨_, hget, -⟩ := Option.map_eq_some_iff.1 hsink
    simpa using (List.getElem?_eq_some_iff.1 hget).1

/-- What sinks compute of a call while some of them are idle. -/
def outcome (idle : List SinkId) (channel : Channel) : Call → Sent
  | .emit sink d => emitAmong idle channel sink d
  | .body raised last => callAll (fun c m => emitAmong idle c m.1 m.2) channel last raised

theorem kept_outcome (idle : List SinkId) (channel : Channel) (call : Call) :
    channel.Kept (outcome idle channel call).channel := by
  cases call with
  | emit sink d => exact kept_emitAmong idle channel sink d
  | body raised last => exact kept_callAll (fun c m => kept_emitAmong idle c m.1 m.2) _ _ _

/-- To run the code of a reaction is to make its calls. -/
theorem outcome_code (idle : List SinkId) (channel : Channel) (reaction : Reaction) :
    outcome idle channel (channel.code reaction) =
      execute (fun c m => emitAmong idle c m.1 m.2) channel reaction := rfl

/-- After a call that gave back what it borrowed, the same sinks are idle. -/
theorem Apart.after {call : Call} (h : Apart idle s)
    (hcall : outcome idle s.channel call = ⟨deliveries, t.channel, ending⟩)
    (hborrowed : t.borrowed = s.borrowed) : Apart idle t := by
  have hkept := h.kept (kept_outcome idle s.channel call)
  rwa [hcall, ← hborrowed] at hkept

/-- A call does what the sinks compute, and gives back every handler that it borrowed. -/
theorem Calls.outcome_eq {call : Call} (h : s.Calls call deliveries ending t)
    (hapart : Apart idle s) :
    outcome idle s.channel call = ⟨deliveries, t.channel, ending⟩ ∧ t.borrowed = s.borrowed := by
  induction h generalizing idle with
  | busy hborrowed =>
    refine ⟨?_, rfl⟩
    rw [outcome, emitAmong_of_unserved fun hidle react hreact =>
      (hapart.mem_iff _ react hreact).1 hidle hborrowed]
  | written _ hhandler =>
    exact ⟨by rw [outcome, emitAmong_of_unserved fun _ => hhandler], rfl⟩
  | @handled s t sink d react taken deliveries hfree hsink _ ih =>
    have hidle := (hapart.mem_iff sink react (by rw [handler?, hsink]; rfl)).2 hfree
    obtain ⟨hbody, hborrowed⟩ := ih ((hapart.kept (kept_take _ sink d)).borrow sink)
    refine ⟨?_, by rw [hborrowed, List.erase_cons_head]⟩
    rw [outcome_code] at hbody
    rw [outcome, emitAmong_of_served hidle hsink, serve_of_returned (by rw [hbody]), hbody]
  | @caught s t u sink d react taken payload deliveries dropped ending hfree hsink _ _ ih ihdrop =>
    have hidle := (hapart.mem_iff sink react (by rw [handler?, hsink]; rfl)).2 hfree
    have hrunning := (hapart.kept (kept_take _ sink d)).borrow sink
    obtain ⟨hbody, hborrowed⟩ := ih hrunning
    -- The payload is dropped while the handler is still borrowed.
    obtain ⟨hdrop, hafter⟩ := ihdrop (hrunning.after hbody hborrowed)
    refine ⟨?_, by rw [hafter, hborrowed, List.erase_cons_head]⟩
    rw [outcome_code] at hbody hdrop
    rw [outcome, emitAmong_of_served hidle hsink, serve_of_unwound (by rw [hbody]), hbody]
    dsimp only
    rw [hdrop]
  | finished => exact ⟨rfl, rfl⟩
  | @raised s t u m rest last first second ending _ _ hfirst hsecond =>
    obtain ⟨hemit, hborrowed⟩ := hfirst hapart
    obtain ⟨hbody, hafter⟩ := hsecond (hapart.after hemit hborrowed)
    refine ⟨?_, hafter.trans hborrowed⟩
    dsimp only [outcome] at hemit hbody ⊢
    rw [callAll_cons_of_returned (by rw [hemit]), hemit]
    dsimp only
    rw [hbody]
  | torn _ hfirst =>
    obtain ⟨hemit, hborrowed⟩ := hfirst hapart
    dsimp only [outcome] at hemit ⊢
    exact ⟨by rw [callAll_cons_of_unwound (by rw [hemit]), hemit], hborrowed⟩

/-- The call can be made, it comes to what is told, and it gives back every handler. -/
def Yields (s : Guarded) (call : Call) (out : Sent) : Prop :=
  s.Calls call out.deliveries out.ending ⟨out.channel, s.borrowed⟩

/-- Code does what its calls do, up to the first that unwinds. -/
theorem yields_body {call : Channel → SinkId × Diagnostic → Sent} {channel : Channel}
    {borrowed : List SinkId} (hkept : ∀ c m, Kept c (call c m).channel)
    (h : ∀ c, channel.Kept c → ∀ m, Yields ⟨c, borrowed⟩ (.emit m.1 m.2) (call c m))
    (raised : List (SinkId × Diagnostic)) (last : Ending) :
    Yields ⟨channel, borrowed⟩ (.body raised last) (callAll call channel last raised) := by
  induction raised generalizing channel with
  | nil => exact .finished
  | cons m raised ih =>
    have hfirst := h channel (.refl channel) m
    cases hending : (call channel m).ending with
    | returned =>
      rw [callAll_cons_of_returned hending]
      rw [Yields, hending] at hfirst
      refine .raised hfirst (ih fun c hc => ?_)
      exact h c ((hkept channel m).trans hc)
    | unwound payload =>
      rw [callAll_cons_of_unwound hending, Yields, hending]
      rw [Yields, hending] at hfirst
      exact .torn hfirst

/-- A message can always be sent. -/
theorem yields_emit {channel : Channel} {borrowed : List SinkId}
    (hapart : Apart idle ⟨channel, borrowed⟩) :
    Yields ⟨channel, borrowed⟩ (.emit sink d) (emitAmong idle channel sink d) := by
  induction idle, channel, sink, d using emitAmong_induction generalizing borrowed with
  | logged idle channel sink d hnone =>
    rw [emitAmong_of_unserved hnone]
    by_cases hfree : sink ∈ borrowed
    · exact .busy hfree
    · refine .written hfree fun react hreact => ?_
      exact hnone ((hapart.mem_iff sink react hreact).2 hfree) react hreact
  | served idle channel sink d react taken hidle hsink ih =>
    have hfree : sink ∉ borrowed :=
      (hapart.mem_iff sink react (handler?_eq_some_iff.2 ⟨taken, hsink⟩)).1 hidle
    have hrunning : Apart (idle.erase sink) ⟨channel.take sink d, sink :: borrowed⟩ :=
      (hapart.kept (kept_take channel sink d)).borrow sink
    have hcode (c : Channel) (hc : (channel.take sink d).Kept c) (code : Reaction) :
        Yields ⟨c, sink :: borrowed⟩ (c.code code)
          (execute (fun c m => emitAmong (idle.erase sink) c m.1 m.2) c code) :=
      yields_body (fun c m => kept_emitAmong (idle.erase sink) c m.1 m.2)
        (fun c' hc' m => ih c' m ((hrunning.kept hc).kept hc')) _ _
    have hbody := hcode _ (.refl _) (react taken d)
    rw [emitAmong_of_served hidle hsink]
    cases hending : (execute (fun c m => emitAmong (idle.erase sink) c m.1 m.2)
        (channel.take sink d) (react taken d)).ending with
    | returned =>
      rw [Yields, hending] at hbody
      rw [serve_of_returned hending]
      have hemit : Calls ⟨channel, borrowed⟩ (.emit sink d) _ _ _ := .handled hfree hsink hbody
      simpa [Yields] using hemit
    | unwound payload =>
      have hkept := kept_outcome (idle.erase sink) (channel.take sink d)
        ((channel.take sink d).code (react taken d))
      rw [outcome_code] at hkept
      have hdrop := hcode _ hkept payload
      rw [Yields, hending] at hbody
      rw [serve_of_unwound hending]
      have hemit : Calls ⟨channel, borrowed⟩ (.emit sink d) _ _ _ :=
        .caught hfree hsink hbody hdrop
      simpa [Yields] using hemit

/-- Calls do what the sinks compute, and nothing else. -/
theorem calls_iff {call : Call} (hapart : Apart idle s) :
    s.Calls call deliveries ending t ↔
      outcome idle s.channel call = ⟨deliveries, t.channel, ending⟩ ∧ t.borrowed = s.borrowed := by
  refine ⟨fun h => h.outcome_eq hapart, ?_⟩
  rintro ⟨hcall, hborrowed⟩
  have hyields : s.Yields call (outcome idle s.channel call) := by
    cases call with
    | emit sink d => exact yields_emit hapart
    | body raised last =>
      exact yields_body (fun c m => kept_emitAmong idle c m.1 m.2)
        (fun c hc m => yields_emit (hapart.kept hc)) raised last
  rw [hcall, Yields, ← hborrowed] at hyields
  exact hyields

end Guarded

end VulkanExec
