import VulkanExec.Proofs.Sink.Delivery
import VulkanExec.Proofs.Sink.Watch

/-!
# Sinks outlive their messengers

The sink of an establishment is there as long as its messenger is, in whatever order the holders of
its device go. Until then every message that the driver raises reaches its handler.

## Main definitions

- `Operation.sink?`: the sink that an operation brings along for a messenger;
- `Channel.surviving`: the listeners whose sinks nobody has let go of.

The main statement is `Session.sink_outlives_messenger`.
-/

namespace VulkanExec

open Program

/-- The sink that an operation brings along for a messenger, which is none if validation is off. -/
def Operation.sink? : Operation → Option SinkId
  | .establish config sink _ => if config.validation then some sink else none
  | _ => none

/-- A channel after some events: nobody listens any more with a sink that was let go of. -/
def Channel.surviving (channel : Channel) (past : List Event) : Channel :=
  { channel with listeners := channel.listeners.filter (· ∉ sinksLetGo past) }

section Offered

variable {events : List Event} {h : Holder} {remaining : List Holder}

theorem offered_of_nil {sinks : List SinkId} (h : sinksOffered events = []) :
    (sinksOffered events).Sublist sinks := by
  rw [h]
  exact List.nil_sublist sinks

/-- Events that spare every host offer nothing: a sink is offered to an own instance. -/
theorem offered_of_spares {sinks : List SinkId} (h : ∀ e ∈ events, e.Spares fun _ => True) :
    (sinksOffered events).Sublist sinks := by
  refine offered_of_nil (List.filterMap_eq_nil_iff.2 fun e he => ?_)
  unfold Event.offers?
  split
  · cases (h _ he).1
  · rfl

theorem sinksOffered_closing (i : Instance) : sinksOffered i.closing = [] := by
  obtain ⟨handle, callback⟩ := i
  cases callback <;> simp [Instance.closing, Event.offers?]

/-- No drop offers a sink. -/
theorem sinksOffered_of_drop (hruns : (h.drop remaining).Runs events ()) :
    sinksOffered events = [] := by
  by_cases hinst : ∃ i, h = .inst i
  · obtain ⟨i, rfl⟩ := hinst
    obtain rfl := Instance.runs_close hruns
    exact sinksOffered_closing i
  · cases Holder.runs_drop (fun i hi => hinst ⟨i, hi⟩) hruns with
    | kept hquiet => exact (silent_of_mute (forall_mute_of_quiet hquiet)).1
    | closed _ _ _ hquiet =>
      simp [(silent_of_mute (forall_mute_of_quiet hquiet)).1, sinksOffered_closing, Event.offers?]

/-- An establishment offers its own sink at most once, and only if validation is on. -/
theorem Context.Enrolment.offered {config : Config} {sink : SinkId} {stamp : Nat}
    {r : Except Error Context} (h : Enrolment config sink stamp events r) (name : String) :
    (sinksOffered events).Sublist (Operation.establish config sink name).sink?.toList := by
  cases h with
  | failed hmute | silent _ hmute =>
    exact offered_of_nil (silent_of_mute hmute).1
  | refused hon hbefore hafter | registered hon hbefore hafter =>
    simp [(silent_of_mute hbefore).1, (silent_of_mute hafter).1, Event.offers?, Operation.sink?,
      hon]
  | undone hon hbefore hafter =>
    simp [(silent_of_mute hbefore).1, (silent_of_mute hafter).1, sinksOffered_closing,
      Event.offers?, Operation.sink?, hon]

end Offered

namespace Session

variable {s : Session} {operation : Operation} {operations : List Operation} {made : Holder}
  {outcomes : List Outcome} {events : List Event} {r : Outcome × Session}

theorem Making.offered (h : Making s operation events made) :
    (sinksOffered events).Sublist operation.sink?.toList := by
  cases hop : operation.establishes with
  | false => exact offered_of_spares (h.spares hop)
  | true =>
    cases h with
    | establish establishing => exact (Context.runs_establish establishing).enrolment.offered _
    | _ => cases hop

theorem Failing.offered {e : Error} (h : Failing s operation events e) :
    (sinksOffered events).Sublist operation.sink?.toList := by
  cases hop : operation.establishes with
  | false => exact offered_of_spares (h.spares hop)
  | true =>
    cases h with
    | establish establishing => exact (Context.runs_establish establishing).enrolment.offered _
    | _ => cases hop

/-- An operation offers at most the sink that it brings along, and at most once. -/
theorem Step.offered (h : Step s operation events r) :
    (sinksOffered events).Sublist operation.sink?.toList := by
  cases h with
  | absent => exact List.nil_sublist _
  | failed failing => exact failing.offered
  | made making replacing =>
    rw [sinksOffered_append]
    cases replacing with
    | vacant => simpa using making.offered
    | former _ dropping =>
      rw [sinksOffered_of_drop dropping, List.append_nil]
      exact making.offered
  | worked hwork _ working =>
    exact offered_of_spares (Operation.turns_of_work? hwork working).spares
  | retired _ retiring =>
    exact offered_of_spares (spares_of_only (only_retireUnit_spares fun _ => trivial) retiring)
  | bound _ binding => exact offered_of_spares (spares_of_only WorkPool.only_bindTo_spares binding)
  | released _ releasing =>
    exact offered_of_spares (spares_of_only WorkPool.only_release_spares releasing)
  | closed _ dropping | dropped _ dropping => exact offered_of_nil (sinksOffered_of_drop dropping)

/-- The sinks of a run are offered in the order of its operations. -/
theorem offered_of_run (hrun : (empty.run operations).Runs events (outcomes, s)) :
    (sinksOffered events).Sublist (operations.filterMap Operation.sink?) := by
  refine run_induction
    (I := fun operations events _ =>
      (sinksOffered events).Sublist (operations.filterMap Operation.sink?)) hrun (by simp) ?_
  intro done operation past before s first r _ _ _ hstep ih
  rw [sinksOffered_append, List.filterMap_append,
    List.filterMap_eq_flatMap_toList Operation.sink? [operation], List.flatMap_singleton]
  exact ih.append hstep.offered

/-- A message that the driver raises after some events, for a messenger whose sink is still there,
reaches the handler of the sink. -/
theorem mem_broadcast_surviving {channel : Channel} {handler : Handler} {sink : SinkId}
    {past : List Event} (hkept : sink ∉ sinksLetGo past)
    (hhandler : channel.handler? sink = some handler) (hlistener : sink ∈ channel.listeners)
    (d : Diagnostic) : handler.delivery sink d ∈ ((channel.surviving past).broadcast d).1 := by
  have hsurviving : (channel.surviving past).handler? sink = some handler := hhandler
  have hlistener : sink ∈ (channel.surviving past).listeners := by
    simp [Channel.surviving, hlistener, hkept]
  exact Channel.mem_broadcast hsurviving hlistener d

/-- Every command about messengers goes back to an establishment with validation. -/
theorem validation_of_messenger
    (hoffered : (sinksOffered events).Sublist (operations.filterMap Operation.sink?))
    {ds : Finset Device} {n : Nat} (hwatch : Watch n ds events) {c : Command} {answer : c.Answer}
    (hc : .answered c answer ∈ events) (hmessenger : c.isForMessenger) :
    ∃ config sink as, .establish config sink as ∈ operations ∧ config.validation := by
  have hcreate {i : InstanceHandle} {sink : SinkId} {answer : Reply MessengerHandle}
      (hmem : .answered (.createMessenger i sink) answer ∈ events) :
      ∃ config sink as, .establish config sink as ∈ operations ∧ config.validation := by
    have hsink : sink ∈ sinksOffered events := List.mem_filterMap.2 ⟨_, hmem, rfl⟩
    obtain ⟨operation, hoperation, hbrings⟩ := List.mem_filterMap.1 (hoffered.subset hsink)
    cases operation with
    | establish config sink' as =>
      refine ⟨config, sink', as, hoperation, ?_⟩
      by_contra hoff
      simp [Operation.sink?, hoff] at hbrings
    | _ => cases hbrings
  cases c with
  | createMessenger i sink => exact hcreate hc
  | destroyMessenger i messenger =>
    have hgone : (i, messenger) ∈ unregistrations events := List.mem_filterMap.2 ⟨_, hc, rfl⟩
    have hmade : (i, messenger) ∈ registrations events := by
      rw [← Multiset.mem_coe, hwatch.balance]
      exact Multiset.mem_add.2 (.inl (Multiset.mem_coe.2 hgone))
    obtain ⟨e, he, hregisters⟩ := List.mem_filterMap.1 hmade
    unfold Event.registers? at hregisters
    split at hregisters
    · exact hcreate he
    · cases hregisters
  | _ => cases hmessenger

/-- Sinks outlive their messengers. A sink is given away to its establishment, so no two of them
bring the same one. Take any messenger that a session created. Either a holder still has the device
that was created next on its instance, and the messenger and its sink with it; or the device was
destroyed, and right after it the messenger, the instance and the sink went, in this order. As long
as the messenger was there, every message reached the handler of its sink. Each messenger that was
created was destroyed once, or it goes with a device that is still held. A success with validation
has registered its sink, and without validation no messenger comes or goes. -/
theorem sink_outlives_messenger (hrun : (empty.run operations).Runs events (outcomes, s))
    (honce : (operations.filterMap Operation.sink?).Nodup) :
    (∀ before i sink messenger after,
      events = before ++ .answered (.createMessenger i sink) (.ok messenger) :: after →
      ∃ alive, SinkLife (devices s.all) i messenger sink alive after ∧
        ∀ past, past <+: alive → ∀ (channel : Channel) handler d,
          channel.handler? sink = some handler → sink ∈ channel.listeners →
          handler.delivery sink d ∈ ((channel.surviving (before ++
            .answered (.createMessenger i sink) (.ok messenger) :: past)).broadcast d).1) ∧
    (registrations events : Multiset (InstanceHandle × MessengerHandle)) =
      unregistrations events + ∑ d ∈ devices s.all, d.messengers ∧
    (∀ c answer, .answered c answer ∈ events → c.isForMessenger →
      ∃ config sink as, .establish config sink as ∈ operations ∧ config.validation) ∧
    ∀ config sink stamp made c, (Context.establish config sink stamp).Runs made (.ok c) →
      if config.validation then ∃ i messenger d,
        c.device = ⟨stamp, d, some ⟨i, some ⟨messenger, sink⟩⟩⟩ ∧
          .answered (.createMessenger i sink) (.ok messenger) ∈ made
      else (∃ i d, c.device = ⟨stamp, d, some ⟨i, none⟩⟩) ∧
        ∀ c answer, .answered c answer ∈ made → c.isForMessenger = false := by
  have hoffered := offered_of_run hrun
  obtain ⟨-, hwatched⟩ := (watched_invariant.run (s := empty) (t := [])
    ⟨nofun, fun _ => watch_nil⟩ fun operation _ => operation.brings_all).of_history hrun
  have hwatch : Watch s.nextStamp (devices s.all) events := hwatched.watch (honce.sublist hoffered)
  refine ⟨?_, hwatch.balance, ?_, ?_⟩
  · intro before i sink messenger after he
    obtain ⟨hbefore, alive, hlife⟩ := hwatch.lives before i sink messenger after he
    refine ⟨alive, hlife, ?_⟩
    rintro past ⟨rest, rfl⟩ channel handler d hhandler hlistener
    refine mem_broadcast_surviving ?_ hhandler hlistener d
    have halive := hlife.kept
    simp only [sinksLetGo_append, List.mem_append, not_or] at halive
    simp [hbefore, halive.1, Event.letsGo?]
  · intro c answer hc hmessenger
    exact validation_of_messenger hoffered hwatch hc hmessenger
  · intro config sink stamp made c hmade
    cases (Context.runs_establish hmade).enrolment with
    | silent hoff hmute hdevice =>
      rw [if_neg (by simp [hoff])]
      exact ⟨⟨_, _, hdevice⟩, fun c answer hc => hmute _ hc⟩
    | registered hon hbefore hafter hfirst hdevice =>
      rw [if_pos hon]
      exact ⟨_, _, _, hdevice, by simp⟩

/-! ### A pool that outlives its context -/

/-- A context is established with validation, and a pool is the last holder of its device. -/
def heardOperations : List Operation :=
  [.establish Config.default 0 "c", .openPool "c" "p", .drop "c", .drop "p"]

/-- The run of these operations against a driver with the layer that validation needs. It gives out
6 for the instance and 76 for the messenger. -/
def heardRun : (List Outcome × Session) × List Event × Nat :=
  (empty.run heardOperations).runWith
    ((Driver.numbering fun _ => false).override Command.withLayers) 1

set_option maxRecDepth 4000 in
/-- A message before the messenger is destroyed, after the device was, still reaches its handler. -/
theorem heard_until_messenger_goes :
    ∃ alive rest, heardRun.2.1 = heardRun.2.1.take 77 ++
        .answered (.createMessenger ⟨6⟩ 0) (.ok ⟨76⟩) ::
          (alive ++ ((Instance.mk ⟨6⟩ (some ⟨⟨76⟩, 0⟩)).closing ++ rest)) ∧
      ∀ (channel : Channel) handler d, channel.handler? 0 = some handler → 0 ∈ channel.listeners →
        handler.delivery 0 d ∈ ((channel.surviving (heardRun.2.1.take 77 ++
          .answered (.createMessenger ⟨6⟩ 0) (.ok ⟨76⟩) :: alive)).broadcast d).1 := by
  have hsplit : heardRun.2.1 = heardRun.2.1.take 77 ++
      .answered (.createMessenger ⟨6⟩ 0) (.ok ⟨76⟩) :: heardRun.2.1.drop 78 := rfl
  have hnone : heardRun.1.2.all.isEmpty := by decide +kernel
  have hrun : (empty.run heardOperations).Runs heardRun.2.1 heardRun.1 := by
    unfold heardRun
    exact Program.runs_runWith ..
  generalize heardRun = run at *
  obtain ⟨hlives, -⟩ := sink_outlives_messenger hrun (by decide)
  obtain ⟨alive, hlife, hheard⟩ := hlives _ _ _ _ _ hsplit
  generalize run.2.1.drop 78 = after at hsplit hlife
  cases hlife with
  | held hd => simp [List.isEmpty_iff.1 hnone, devices] at hd
  | gone => exact ⟨alive, _, hsplit, hheard alive (List.prefix_refl alive)⟩

end Session

end VulkanExec
