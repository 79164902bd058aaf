import VulkanExec.Diagnostic.Sink

/-!
# Messages reach their handlers

A message to a listener ends with its handler, whatever handlers do with the messages before it:
no handler is replaced, and every listener is told.

## Main definitions

- `Handler.delivery`: what becomes of a message that a handler is there for;
- `Channel.Kept`: the same sinks with the same handlers, and the same listeners.

The main statement is `Channel.mem_broadcast`.
-/

namespace VulkanExec

/-- What becomes of a message to a sink whose handler is not running. -/
def Handler.delivery (sink : SinkId) (d : Diagnostic) : Handler → Delivery
  | logging => .logged d.record
  | custom _ => .handled sink d

namespace Channel

variable {α : Type} {a b c channel : Channel} {sink : SinkId} {handler : Handler}

/-- The later channel has the handlers and the listeners of the earlier one. -/
structure Kept (a b : Channel) : Prop where
  handlers : b.sinks.map Sink.handler = a.sinks.map Sink.handler
  listeners : b.listeners = a.listeners

theorem Kept.refl (a : Channel) : a.Kept a := ⟨rfl, rfl⟩

theorem Kept.trans (h : a.Kept b) (hnext : b.Kept c) : a.Kept c :=
  ⟨hnext.handlers.trans h.handlers, hnext.listeners.trans h.listeners⟩

/-- The handler of a sink, if the sink is there. -/
def handler? (channel : Channel) (sink : SinkId) : Option Handler :=
  (channel.sinks[sink]?).map Sink.handler

theorem Kept.handler? (h : a.Kept b) (sink : SinkId) : b.handler? sink = a.handler? sink := by
  simpa [Channel.handler?] using congrArg (·[sink]?) h.handlers

theorem kept_take (channel : Channel) (sink : SinkId) (d : Diagnostic) :
    channel.Kept (channel.take sink d) := by
  refine ⟨List.ext_getElem? fun i => ?_, rfl⟩
  simp only [take, List.getElem?_map, List.getElem?_modify]
  split <;> cases channel.sinks[i]? <;> rfl

/-- Calls that replace no handler, made one after the other, replace none. -/
theorem kept_callAll {call : Channel → SinkId × Diagnostic → Sent}
    (h : ∀ (c : Channel) m, c.Kept (call c m).channel) (channel : Channel) (last : Ending)
    (raised : List (SinkId × Diagnostic)) :
    channel.Kept (callAll call channel last raised).channel := by
  induction raised generalizing channel with
  | nil => exact .refl channel
  | cons m raised ih =>
    rw [callAll]
    split
    · exact h channel m
    · exact (h channel m).trans (ih _)

theorem kept_serve {call : Channel → SinkId × Diagnostic → Sent}
    (h : ∀ (c : Channel) m, c.Kept (call c m).channel) (channel : Channel) (sink : SinkId)
    (d : Diagnostic) (reaction : Reaction) :
    channel.Kept (serve call channel sink d reaction).channel := by
  have hbody : channel.Kept (execute call (channel.take sink d) reaction).channel :=
    (kept_take channel sink d).trans (kept_callAll h _ _ _)
  rw [serve]
  split
  · exact hbody
  · exact hbody.trans (kept_callAll h _ _ _)

/-- Whatever handlers do with a message, no handler is replaced. -/
theorem kept_emitAmong (idle : List SinkId) (channel : Channel) (sink : SinkId) (d : Diagnostic) :
    channel.Kept (emitAmong idle channel sink d).channel := by
  fun_induction emitAmong idle channel sink d with
  | case1 idle channel sink d _ react taken _ ih => exact kept_serve ih channel sink d _
  | case2 => exact .refl _
  | case3 => exact .refl _

theorem kept_send (channel : Channel) (sink : SinkId) (d : Diagnostic) :
    channel.Kept (channel.send sink d).2 := kept_emitAmong _ channel sink d

/-- A handler takes its message before anything else comes of it. -/
theorem handled_mem_serve (call : Channel → SinkId × Diagnostic → Sent) (channel : Channel)
    (sink : SinkId) (d : Diagnostic) (reaction : Reaction) :
    .handled sink d ∈ (serve call channel sink d reaction).deliveries := by
  rw [serve]
  split
  · exact List.mem_cons_self
  · exact List.mem_cons_self

/-- A message that is sent while no handler is running reaches the handler. -/
theorem mem_send (h : channel.handler? sink = some handler) (d : Diagnostic) :
    handler.delivery sink d ∈ (channel.send sink d).1 := by
  obtain ⟨⟨handler, taken⟩, hsink, rfl⟩ := Option.map_eq_some_iff.1 h
  have hidle : sink ∈ List.range channel.sinks.length := by
    rw [List.mem_range]
    exact (List.getElem?_eq_some_iff.1 hsink).1
  unfold send emit
  rw [emitAmong, dif_pos hidle, hsink]
  cases handler with
  | logging => exact List.mem_singleton_self _
  | custom react => exact handled_mem_serve _ channel sink d _

theorem mem_sequence {step : Channel → α → List Delivery × Channel} {member : α}
    {delivery : Delivery} {members : List α} (hkept : ∀ (c : Channel) a, c.Kept (step c a).2)
    (hmember : member ∈ members)
    (h : ∀ c, channel.Kept c → delivery ∈ (step c member).1) :
    delivery ∈ (sequence step channel members).1 := by
  induction members generalizing channel with
  | nil => cases hmember
  | cons first members ih =>
    rcases List.mem_cons.1 hmember with rfl | hmember
    · exact List.mem_append_left _ (h channel (.refl channel))
    · refine List.mem_append_right _ (ih hmember fun c hc => ?_)
      exact h c ((hkept channel first).trans hc)

/-- Every listener's handler is reached by a message that the driver raises. -/
theorem mem_broadcast (h : channel.handler? sink = some handler)
    (hlistener : sink ∈ channel.listeners) (d : Diagnostic) :
    handler.delivery sink d ∈ (channel.broadcast d).1 := by
  refine mem_sequence (fun c listener => kept_send c listener d) hlistener fun c hc => ?_
  exact mem_send (by rw [hc.handler?, h]) d

end Channel

end VulkanExec
