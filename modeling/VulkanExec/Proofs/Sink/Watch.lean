import VulkanExec.Proofs.Ledger.Session
import VulkanExec.Proofs.Sink.Registration

/-!
# The lives of sinks

A sink that is registered with a messenger belongs to an instance, the instance to a device, and
the device to all its holders. The last of them releases the device, the messenger, the instance
and the sink, in this order.

## Main definitions

- `SinkLife`: what has become of a registered sink, and the events while its messenger was there;
- `Watch`: the lives of all sinks, with what the devices that are held have to do with them;
- `Watched`: the watch over the devices of some holders.

The main statement, `watched_invariant`, says that all that can be done with a holder keeps the
watch.
-/

namespace VulkanExec

open Program

/-! ## Splitting events -/

section Splits

variable {past events before after : List Event} {e : Event} {i j : InstanceHandle}
  {sink other : SinkId} {messenger messenger' : MessengerHandle}

/-- Among these events no messenger is created. -/
theorem not_registered (h : registrations events = []) :
    events ≠ before ++ .answered (.createMessenger i sink) (.ok messenger) :: after := by
  rintro rfl
  rw [registrations_append] at h
  exact List.cons_ne_nil _ _ (List.append_eq_nil_iff.1 h).2

/-- There is only one way to split events at their only new messenger. -/
theorem eq_of_registered_once {first last : List Event} (hfirst : registrations first = [])
    (hlast : registrations last = [])
    (h : first ++ .answered (.createMessenger i sink) (.ok messenger) :: last =
      before ++ .answered (.createMessenger j other) (.ok messenger') :: after) :
    first = before ∧ i = j ∧ sink = other ∧ messenger = messenger' ∧ last = after := by
  rcases append_eq_append_cons h with ⟨rest, hrest, -⟩ | ⟨middle, rfl, hmiddle⟩
  · exact absurd hrest (not_registered hfirst)
  · cases middle with
    | nil =>
      obtain ⟨he, rfl⟩ := List.cons.inj hmiddle
      cases he
      exact ⟨by simp, rfl, rfl, rfl, rfl⟩
    | cons x middle =>
      obtain ⟨-, hrest⟩ := List.cons.inj hmiddle
      exact absurd hrest (not_registered hlast)

end Splits

/-! ## One sink -/

/-- The sink behind the messenger that goes with a device. -/
def Device.sink? (d : Device) : Option SinkId :=
  d.owner.bind fun i => i.callback.map Callback.sink

/-- The messenger that goes with a device, with its instance. -/
def Device.messengers (d : Device) : Multiset (InstanceHandle × MessengerHandle) :=
  match d.owner with
  | some ⟨i, some callback⟩ => {(i, callback.messenger)}
  | _ => 0

/-- What has become of a sink, in the events after it was registered: it is there with the one
device that was created next, or the device, the messenger, the instance and the sink have gone one
after the other. The messenger was there in the first of these events, and all the time its sink
was too. -/
inductive SinkLife (ds : Finset Device) (i : InstanceHandle) (messenger : MessengerHandle)
    (sink : SinkId) : List Event → List Event → Prop where
  | held {d : Device} {alive : List Event} (hd : d ∈ ds)
    (howner : d.owner = some ⟨i, some ⟨messenger, sink⟩⟩)
    (honly : ∀ d' ∈ ds, d'.sink? = some sink → d' = d)
    (hfirst : (devicesMade alive).head? = some (i, d.handle)) (hkept : sink ∉ sinksLetGo alive) :
    SinkLife ds i messenger sink alive alive
  | gone {alive rest : List Event} (hnone : ∀ d ∈ ds, d.sink? ≠ some sink)
    (hfirst : DestroysFirst i alive) (hkept : sink ∉ sinksLetGo alive)
    (hrest : sink ∉ sinksLetGo rest) :
    SinkLife ds i messenger sink alive
      (alive ++ ((Instance.mk i (some ⟨messenger, sink⟩)).closing ++ rest))

section SinkLife

variable {ds ds' : Finset Device} {i : InstanceHandle} {messenger : MessengerHandle}
  {sink : SinkId} {alive after events : List Event} {d : Device}

theorem SinkLife.kept (h : SinkLife ds i messenger sink alive after) :
    sink ∉ sinksLetGo alive := by
  cases h with
  | held _ _ _ _ hkept => exact hkept
  | gone _ _ hkept => exact hkept

/-- The life of a sink goes on as long as nobody lets go of it. -/
theorem SinkLife.go_on (h : SinkLife ds i messenger sink alive after)
    (hkept : sink ∉ sinksLetGo events)
    (hds : ∀ d, d.sink? = some sink → (d ∈ ds' ↔ d ∈ ds)) :
    ∃ alive, SinkLife ds' i messenger sink alive (after ++ events) := by
  cases h with
  | held hd howner honly hfirst halive =>
    refine ⟨_, .held ((hds _ ?_).2 hd) howner ?_ ?_ ?_⟩
    · simp [Device.sink?, howner]
    · intro d' hd' hsink
      exact honly d' ((hds d' hsink).1 hd') hsink
    · rw [devicesMade_append, List.head?_append, hfirst, Option.some_or]
    · simp [halive, hkept]
  | gone hnone hfirst halive hrest =>
    rw [List.append_assoc, List.append_assoc]
    refine ⟨_, .gone ?_ hfirst halive ?_⟩
    · intro d hd hsink
      exact hnone d ((hds d hsink).1 hd) hsink
    · simp [hrest, hkept]

/-- The life of a sink ends after its device goes. -/
theorem SinkLife.close (h : SinkLife ds i messenger sink alive after) {j : Instance}
    (hd : d ∈ ds) (hsink : d.sink? = some sink) (howner : d.owner = some j)
    {before : List Event} {record : LogRecord} (hbefore : ∀ e ∈ before, e.Quiet)
    (hgone : ∀ d' ∈ ds', d' ∈ ds ∧ d' ≠ d) :
    ∃ alive, SinkLife ds' i messenger sink alive (after ++
      (before ++ .answered (.destroyDevice d.handle) () :: .noted (.log record) :: j.closing)) := by
  cases h with
  | gone hnone => exact absurd hsink (hnone d hd)
  | @held d' _ hd' howner' honly hfirst hkept =>
    obtain rfl := honly d hd hsink
    obtain rfl : j = ⟨i, some ⟨messenger, sink⟩⟩ := by simpa [howner] using howner'
    have hsplit : alive ++ (before ++ .answered (.destroyDevice d.handle) () ::
          .noted (.log record) :: (Instance.mk i (some ⟨messenger, sink⟩)).closing) =
        (alive ++ before ++ .answered (.destroyDevice d.handle) () ::
          [record].map (.noted ∘ .log)) ++
            ((Instance.mk i (some ⟨messenger, sink⟩)).closing ++ []) := by
      simp
    rw [hsplit]
    refine ⟨_, .gone ?_ ?_ ?_ List.not_mem_nil⟩
    · intro d' hd' hsink'
      exact (hgone d' hd').2 (honly d' (hgone d' hd').1 hsink')
    · intro made hmade
      simp only [devicesMade_append, List.append_assoc, List.head?_append, hfirst,
        Option.some_or] at hmade
      cases hmade
      exact ⟨rfl, alive ++ before, [.log record], by simp⟩
    · have hmute := (silent_of_mute (forall_mute_of_quiet hbefore)).2.2.2
      simp [hkept, hmute, Event.letsGo?]

end SinkLife

/-! ## All sinks -/

/-- What devices have to do with the sinks of some events. A sink was offered before it is held or
let go of, every registered sink has a life, and the messengers that were created are those that
were destroyed and those that go with a device. -/
structure Watch (n : Nat) (ds : Finset Device) (past : List Event) : Prop where
  stamps : Stamped Device.stamp n ds
  known : ∀ d ∈ ds, ∀ sink, d.sink? = some sink → sink ∈ sinksOffered past
  letGo : ∀ sink ∈ sinksLetGo past, sink ∈ sinksOffered past
  lives : ∀ before i sink messenger after,
    past = before ++ .answered (.createMessenger i sink) (.ok messenger) :: after →
      sink ∉ sinksLetGo before ∧ ∃ alive, SinkLife ds i messenger sink alive after
  balance : (registrations past : Multiset (InstanceHandle × MessengerHandle)) =
    unregistrations past + ∑ d ∈ ds, d.messengers

section Watch

variable {n m : Nat} {ds ds' : Finset Device} {past events before after : List Event}
  {i : InstanceHandle} {messenger : MessengerHandle} {sink : SinkId} {d : Device}

theorem watch_nil : Watch n ∅ [] where
  stamps := ⟨by simp, by simp⟩
  known := by simp
  letGo := by simp
  lives := by simp
  balance := by simp

theorem Device.messengers_eq_zero (h : d.sink? = none) : d.messengers = 0 := by
  unfold messengers
  split
  · next howner => simp [sink?, howner] at h
  · rfl

/-- Events and other devices may follow if the sinks so far go on living, and those of the events
have a life. -/
theorem Watch.extend (h : Watch n ds past) (hstamps : Stamped Device.stamp m ds')
    (hknown : ∀ d ∈ ds', d ∉ ds → ∀ sink, d.sink? = some sink → sink ∈ sinksOffered events)
    (hletGo : ∀ sink ∈ sinksLetGo events, sink ∈ sinksOffered (past ++ events))
    (hold : ∀ i messenger sink alive after, sink ∈ sinksOffered past →
      SinkLife ds i messenger sink alive after →
        ∃ alive, SinkLife ds' i messenger sink alive (after ++ events))
    (hnew : ∀ before i sink messenger after,
      events = before ++ .answered (.createMessenger i sink) (.ok messenger) :: after →
        sink ∉ sinksLetGo (past ++ before) ∧ ∃ alive, SinkLife ds' i messenger sink alive after)
    (hbalance : (registrations events : Multiset (InstanceHandle × MessengerHandle)) +
      ∑ d ∈ ds, d.messengers = unregistrations events + ∑ d ∈ ds', d.messengers) :
    Watch m ds' (past ++ events) where
  stamps := hstamps
  known d hd sink hsink := by
    rw [sinksOffered_append, List.mem_append]
    by_cases hds : d ∈ ds
    · exact .inl (h.known d hds sink hsink)
    · exact .inr (hknown d hd hds sink hsink)
  letGo sink hsink := by
    rw [sinksLetGo_append, List.mem_append] at hsink
    rcases hsink with hsink | hsink
    · rw [sinksOffered_append]
      exact List.mem_append_left _ (h.letGo sink hsink)
    · exact hletGo sink hsink
  lives before i sink messenger after he := by
    rcases append_eq_append_cons he with ⟨rest, hpast, rfl⟩ | ⟨first, rfl, hfirst⟩
    · obtain ⟨hbefore, alive, hlife⟩ := h.lives _ _ _ _ _ hpast
      refine ⟨hbefore, hold _ _ _ _ _ ?_ hlife⟩
      simp [hpast, Event.offers?]
    · exact hnew _ _ _ _ _ hfirst
  balance := by
    rw [registrations_append, unregistrations_append, ← Multiset.coe_add, ← Multiset.coe_add,
      h.balance, add_assoc, add_assoc, ← hbalance, add_comm (∑ d ∈ ds, d.messengers)]

/-- Events at which no messenger comes or goes, and no sink is let go of, change nothing. Devices
without a sink may come and go. -/
theorem Watch.silent (h : Watch n ds past) (hstamps : Stamped Device.stamp m ds')
    (hregistered : registrations events = []) (hunregistered : unregistrations events = [])
    (hkept : sinksLetGo events = []) (hds : ∀ d, d.sink? ≠ none → (d ∈ ds' ↔ d ∈ ds)) :
    Watch m ds' (past ++ events) := by
  have hwith : ∀ sink d, d.sink? = some sink → (d ∈ ds' ↔ d ∈ ds) :=
    fun sink d hsink => hds d (by simp [hsink])
  refine h.extend hstamps ?_ (by simp [hkept]) ?_ ?_ ?_
  · intro d hd hnot sink hsink
    exact absurd ((hwith sink d hsink).1 hd) hnot
  · intro i messenger sink alive after _ hlife
    exact hlife.go_on (by simp [hkept]) (hwith sink)
  · intro before i sink messenger after he
    exact absurd he (not_registered hregistered)
  · rw [hregistered, hunregistered]
    congr 1
    apply Finset.sum_congr_of_eq_on_inter
    · intro d hd hnot
      exact Device.messengers_eq_zero (by_contra fun hsink => hnot ((hds d hsink).2 hd))
    · intro d hd hnot
      exact Device.messengers_eq_zero (by_contra fun hsink => hnot ((hds d hsink).1 hd))
    · intro d _ _
      rfl

/-- Mute events change nothing either. -/
theorem Watch.mute (h : Watch n ds past) (hstamps : Stamped Device.stamp m ds')
    (hmute : ∀ e ∈ events, e.Mute) (hds : ∀ d, d.sink? ≠ none → (d ∈ ds' ↔ d ∈ ds)) :
    Watch m ds' (past ++ events) := by
  obtain ⟨-, hregistered, hunregistered, hkept⟩ := silent_of_mute hmute
  exact h.silent hstamps hregistered hunregistered hkept hds

/-- A device goes with its messenger and its sink. -/
theorem Watch.close (h : Watch n ds past) (hd : d ∈ ds) {j : Instance}
    (howner : d.owner = some j) {record : LogRecord} (hbefore : ∀ e ∈ before, e.Quiet) :
    Watch n (ds.erase d) (past ++
      (before ++ .answered (.destroyDevice d.handle) () :: .noted (.log record) :: j.closing)) := by
  have hstamps := h.stamps.mono (Finset.erase_subset d ds) le_rfl
  have hmute := forall_mute_of_quiet hbefore
  obtain ⟨handle, callback⟩ := j
  cases callback with
  | none =>
    refine h.mute hstamps ?_ fun d' hsink => ?_
    · refine List.forall_mem_append.2 ⟨hmute, ?_⟩
      simp [Instance.closing, Event.Mute, Command.isForMessenger]
    · have hnone : d.sink? = none := by simp [Device.sink?, howner]
      have hne : d' ≠ d := ne_of_apply_ne Device.sink? (by rwa [hnone])
      simp [hne]
  | some callback =>
    obtain ⟨-, hregistered, hunregistered, hletGo⟩ := silent_of_mute hmute
    have hsink : d.sink? = some callback.sink := by simp [Device.sink?, howner]
    have hgone : sinksLetGo (before ++ .answered (.destroyDevice d.handle) () ::
        .noted (.log record) :: (Instance.mk handle (some callback)).closing) =
          [callback.sink] := by
      simp [hletGo, Instance.closing, Event.letsGo?]
    refine h.extend hstamps ?_ ?_ ?_ ?_ ?_
    · intro d' hd' hnot
      exact absurd (Finset.mem_of_mem_erase hd') hnot
    · rw [hgone, List.forall_mem_singleton, sinksOffered_append]
      exact List.mem_append_left _ (h.known d hd _ hsink)
    · intro i messenger sink alive after _ hlife
      by_cases hsame : sink = callback.sink
      · subst hsame
        exact hlife.close hd hsink howner hbefore (by simp [and_comm])
      · refine hlife.go_on (by simp [hgone, hsame]) fun d' hsink' => ?_
        have hne : d' ≠ d := ne_of_apply_ne Device.sink? (by simpa [hsink, hsink'] using hsame)
        simp [hne]
    · intro before' i sink messenger after he
      refine absurd he (not_registered ?_)
      simp [hregistered, Instance.closing, Event.registers?]
    · have hmessengers : d.messengers = {(handle, callback.messenger)} := by
        simp [Device.messengers, howner]
      rw [← Finset.add_sum_erase ds _ hd, hmessengers]
      simp [hregistered, hunregistered, Instance.closing, Event.registers?, Event.unregisters?]

/-- A new sink is registered. No other sink is let go of, and devices without it stay the same. -/
theorem Watch.enrol (h : Watch n ds past) (hstamps : Stamped Device.stamp m ds')
    (hsink : sink ∉ sinksOffered past) (hbefore : ∀ e ∈ before, e.Mute)
    (hafter : registrations after = []) (hletGo : ∀ other ∈ sinksLetGo after, other = sink)
    (hds : ∀ d, d.sink? ≠ some sink → (d ∈ ds' ↔ d ∈ ds))
    (hlife : ∃ alive, SinkLife ds' i messenger sink alive after)
    (hbalance : {(i, messenger)} + ∑ d ∈ ds, d.messengers =
      unregistrations after + ∑ d ∈ ds', d.messengers) :
    Watch m ds' (past ++
      (before ++ .answered (.createMessenger i sink) (.ok messenger) :: after)) := by
  obtain ⟨-, hregistered, hunregistered, hkept⟩ := silent_of_mute hbefore
  refine h.extend hstamps ?_ ?_ ?_ ?_ ?_
  · intro d hd hnot other hother
    have hsame : d.sink? = some sink := by_contra fun hne => hnot ((hds d hne).1 hd)
    obtain rfl : sink = other := Option.some_inj.1 (hsame.symm.trans hother)
    simp [Event.offers?]
  · intro other hother
    obtain rfl : other = sink := hletGo other (by simpa [hkept, Event.letsGo?] using hother)
    simp [Event.offers?]
  · intro j messenger' other alive after' hoffered hother
    have hne : other ≠ sink := by
      rintro rfl
      exact hsink hoffered
    refine hother.go_on ?_ fun d hd => hds d (by simpa [hd] using hne)
    simpa [hkept, Event.letsGo?] using fun hm => hne (hletGo other hm)
  · intro before' j other messenger' after' he
    obtain ⟨rfl, rfl, rfl, rfl, rfl⟩ := eq_of_registered_once hregistered hafter he
    refine ⟨?_, hlife⟩
    rw [sinksLetGo_append, hkept, List.append_nil]
    exact fun hm => hsink (h.letGo _ hm)
  · simpa [hregistered, hunregistered, hafter, Event.registers?, Event.unregisters?] using hbalance

/-- A new device comes with its messenger and its sink. -/
theorem Watch.registered (h : Watch n ds past) (hstamp : d.stamp = n)
    (howner : d.owner = some ⟨i, some ⟨messenger, sink⟩⟩) (hsink : sink ∉ sinksOffered past)
    (hbefore : ∀ e ∈ before, e.Mute) (hafter : ∀ e ∈ after, e.Mute)
    (hfirst : (devicesMade after).head? = some (i, d.handle)) :
    Watch (n + 1) (insert d ds) (past ++
      (before ++ .answered (.createMessenger i sink) (.ok messenger) :: after)) := by
  obtain ⟨-, hregistered, hunregistered, hletGo⟩ := silent_of_mute hafter
  have hd : d.sink? = some sink := by simp [Device.sink?, howner]
  have hother : ∀ d' ∈ ds, d'.sink? ≠ some sink := fun d' hd' heq => hsink (h.known d' hd' _ heq)
  refine h.enrol (h.stamps.insert hstamp) hsink hbefore hregistered (by simp [hletGo]) ?_ ?_ ?_
  · intro d' hd'
    have hne : d' ≠ d := ne_of_apply_ne Device.sink? (by rwa [hd])
    simp [hne]
  · refine ⟨after, .held (Finset.mem_insert_self d ds) howner ?_ hfirst (by simp [hletGo])⟩
    intro d' hd' hsink'
    exact (Finset.mem_insert.1 hd').resolve_right fun hmem => hother d' hmem hsink'
  · have hmessengers : d.messengers = {(i, messenger)} := by simp [Device.messengers, howner]
    have hnot : d ∉ ds := fun hmem => hother d hmem hd
    rw [Finset.sum_insert hnot, hmessengers, hunregistered]
    simp

/-- A sink goes after its messenger if there is no device in the end. -/
theorem Watch.undone (h : Watch n ds past) (hsink : sink ∉ sinksOffered past)
    (hbefore : ∀ e ∈ before, e.Mute) (hafter : ∀ e ∈ after, e.Mute)
    (hfirst : DestroysFirst i after) :
    Watch (n + 1) ds (past ++ (before ++ .answered (.createMessenger i sink) (.ok messenger) ::
      (after ++ (Instance.mk i (some ⟨messenger, sink⟩)).closing))) := by
  obtain ⟨-, hregistered, hunregistered, hletGo⟩ := silent_of_mute hafter
  refine h.enrol (h.stamps.mono subset_rfl (Nat.le_succ n)) hsink hbefore ?_ ?_
    (fun _ _ => Iff.rfl) ⟨after, ?_⟩ ?_
  · simp [hregistered, Instance.closing, Event.registers?]
  · simp [hletGo, Instance.closing, Event.letsGo?]
  · rw [← List.append_nil (Instance.mk i (some ⟨messenger, sink⟩)).closing]
    refine .gone ?_ hfirst (by simp [hletGo]) List.not_mem_nil
    exact fun d hd heq => hsink (h.known d hd _ heq)
  · simp [hunregistered, Instance.closing, Event.unregisters?]

end Watch

/-! ## Holders -/

/-- All devices that are held are watched, provided that no sink was offered twice. -/
structure Watched (n : Nat) (hs : List Holder) (past : List Event) : Prop where
  noInst : ∀ i, .inst i ∉ hs
  watch : (sinksOffered past).Nodup → Watch n (devices hs) past

section Watched

variable {n m : Nat} {h x : Holder} {hs hs' : List Holder} {past events : List Event} {d : Device}

/-- The events after a history are up to the program. -/
theorem meets_history {α : Type} {p : Program α} {Q : α → List Event → Prop}
    (h : ∀ events a, p.Runs events a → Q a (past ++ events)) :
    (Monitor.history fun _ _ => True).Meets p past Q := by
  intro events a hruns _
  rw [Monitor.after_history]
  exact ⟨Monitor.along_iff.2 fun _ _ _ _ => trivial, h events a hruns⟩

/-- Later events do not change that sinks were offered once. -/
theorem Watched.extend (h : Watched n hs past) (hinst : ∀ i, .inst i ∉ hs')
    (hwatch : Watch n (devices hs) past → (sinksOffered past ++ sinksOffered events).Nodup →
      Watch m (devices hs') (past ++ events)) : Watched m hs' (past ++ events) := by
  refine ⟨hinst, fun hnodup => ?_⟩
  rw [sinksOffered_append] at hnodup
  exact hwatch (h.watch (List.Nodup.of_append_left hnodup)) hnodup

/-- Quiet events leave the same devices held. -/
theorem Watched.quiet (h : Watched n hs past) (hinst : ∀ i, .inst i ∉ hs')
    (hquiet : ∀ e ∈ events, e.Quiet) (hdevices : devices hs' = devices hs) (hn : n ≤ m) :
    Watched m hs' (past ++ events) := by
  refine h.extend hinst fun hwatch _ => ?_
  rw [hdevices]
  exact hwatch.mute (hwatch.stamps.mono subset_rfl hn) (forall_mute_of_quiet hquiet)
    fun _ _ => Iff.rfl

theorem Watched.perm (h : Watched n hs past) (hperm : hs.Perm hs') : Watched n hs' past where
  noInst i hm := h.noInst i (hperm.mem_iff.2 hm)
  watch hnodup := devices_perm hperm ▸ h.watch hnodup

theorem Watched.head (h : Watched n (x :: hs) past) : ∀ i, x ≠ .inst i := by
  rintro i rfl
  exact h.noInst i List.mem_cons_self

theorem Watched.tail (h : Watched n (x :: hs) past) : ∀ i, .inst i ∉ hs :=
  fun i hm => h.noInst i (List.mem_cons_of_mem x hm)

/-- Another holder may take the place of the first one if it has the same device. -/
theorem Watched.replace (h : Watched n (x :: hs) past) {y : Holder} (hy : ∀ i, y ≠ .inst i)
    (hdevice : y.device? = x.device?) (hquiet : ∀ e ∈ events, e.Quiet) (hn : n ≤ m) :
    Watched m (y :: hs) (past ++ events) := by
  refine h.quiet ?_ hquiet (by rw [devices_cons, devices_cons, hdevice]) hn
  intro i hm
  rcases List.mem_cons.1 hm with heq | hm
  · exact hy i heq.symm
  · exact h.tail i hm

/-- A holder of a device that is held already may come and go. -/
theorem watched_cons_iff (hx : x ∈ hs) (hd : x.device? = some d) (hdevice : h.device? = some d)
    (hinst : ∀ i, h ≠ .inst i) : Watched n (h :: hs) past ↔ Watched n hs past := by
  have hsame : devices (h :: hs) = devices hs := by
    rw [devices_cons, hdevice, Option.toFinset_some, Finset.singleton_union, Finset.insert_eq_self]
    exact mem_devices.2 ⟨x, hx, hd⟩
  constructor
  · intro hwatched
    exact ⟨hwatched.tail, hsame ▸ hwatched.watch⟩
  · intro hwatched
    refine ⟨fun i hm => ?_, hsame ▸ hwatched.watch⟩
    exact (List.mem_cons.1 hm).elim (fun heq => hinst i heq.symm) (hwatched.noInst i)

/-- With a holder goes its device if nobody else has it, and all that belongs to the device. -/
theorem Watched.drop (h : Watched n (x :: hs) past) (hruns : (x.drop hs).Runs events ()) :
    Watched n hs (past ++ events) := by
  refine h.extend h.tail fun hwatch _ => ?_
  have hstamps := hwatch.stamps
  have hsub : devices hs ⊆ devices (x :: hs) := by
    rw [devices_cons]
    exact Finset.subset_union_right
  cases Holder.runs_drop h.head hruns with
  | kept hquiet hkept =>
    refine hwatch.mute (hstamps.mono hsub le_rfl) (forall_mute_of_quiet hquiet) ?_
    intro d hsink
    refine ⟨fun hd => hsub hd, fun hd => ?_⟩
    obtain ⟨i, howner⟩ : ∃ i, d.owner = some i := by
      rw [← Option.isSome_iff_exists]
      by_contra hnone
      exact hsink (by simp [Device.sink?, Option.not_isSome_iff_eq_none.1 hnone])
    obtain ⟨y, hy, hyd⟩ := mem_devices.1 hd
    rcases List.mem_cons.1 hy with rfl | hy
    · exact (hstamps.deviceHeld_iff hyd).1 (hkept d i hyd howner)
    · exact mem_devices.2 ⟨y, hy, hyd⟩
  | @closed d i before record hdevice howner hlast hquiet =>
    have hnot : d ∉ devices hs := by
      rw [← hstamps.deviceHeld_iff hdevice, hlast]
      simp
    have hsame : devices (x :: hs) = insert d (devices hs) := by
      rw [devices_cons, hdevice, Option.toFinset_some, Finset.insert_eq]
    rw [hsame] at hwatch
    rw [← Finset.erase_insert hnot]
    exact hwatch.close (Finset.mem_insert_self d _) howner hquiet

/-- What a failure leaves, and what a new context adds. -/
theorem Watched.establish (h : Watched n hs past) {config : Config} {sink : SinkId}
    {r : Except Error Context} (hruns : (Context.establish config sink n).Runs events r) :
    Session.Added (Watched (n + 1)) .context hs r (past ++ events) := by
  have hcontext (c : Context) : ∀ i, .inst i ∉ Holder.context c :: hs := by
    intro i hm
    exact h.noInst i (by simpa using hm)
  have hinsert {c : Context} {d : Device} (hc : c.device = d) :
      devices (.context c :: hs) = insert d (devices hs) := by
    rw [devices_cons, Holder.device?, hc, Option.toFinset_some, Finset.insert_eq]
  cases (Context.runs_establish hruns).enrolment with
  | failed hmute =>
    refine h.extend h.noInst fun hwatch _ => ?_
    exact hwatch.mute (hwatch.stamps.mono subset_rfl (Nat.le_succ n)) hmute fun _ _ => Iff.rfl
  | refused _ hbefore hafter =>
    obtain ⟨-, hregistered, hunregistered, hletGo⟩ := silent_of_mute hbefore
    obtain ⟨-, hregistered', hunregistered', hletGo'⟩ := silent_of_mute hafter
    refine h.extend h.noInst fun hwatch _ => ?_
    refine hwatch.silent (hwatch.stamps.mono subset_rfl (Nat.le_succ n)) ?_ ?_ ?_
      fun _ _ => Iff.rfl
    · simp [hregistered, hregistered', Event.registers?]
    · simp [hunregistered, hunregistered', Event.unregisters?]
    · simp [hletGo, hletGo', Event.letsGo?]
  | @silent _ c d i _ hmute hdevice =>
    refine h.extend (hcontext _) fun hwatch _ => ?_
    rw [hinsert hdevice]
    refine hwatch.mute (hwatch.stamps.insert rfl) hmute fun d' hsink => ?_
    have hne : d' ≠ ⟨n, d, some ⟨i, none⟩⟩ := ne_of_apply_ne Device.sink? hsink
    simp [hne]
  | undone _ hbefore hafter hfirst =>
    refine h.extend h.noInst fun hwatch hnodup => hwatch.undone ?_ hbefore hafter hfirst
    exact fun hm => List.disjoint_of_nodup_append hnodup hm (by simp [Event.offers?])
  | registered _ hbefore hafter hfirst hdevice =>
    refine h.extend (hcontext _) fun hwatch hnodup => ?_
    rw [hinsert hdevice]
    refine hwatch.registered rfl rfl ?_ hbefore hafter hfirst
    exact fun hm => List.disjoint_of_nodup_append hnodup hm (by simp [Event.offers?])

/-- An adopted device has no sink. -/
theorem Watched.adopt (h : Watched n hs past) {host : HostHandles} {config : Config}
    {r : Except Error Context} (hruns : (Context.adopt host config n).Runs events r) :
    Session.Added (Watched (n + 1)) .context hs r (past ++ events) := by
  have hquiet := forall_quiet Context.only_adopt_spares logs_adopt hruns
  cases r with
  | error e => exact h.quiet h.noInst hquiet rfl (Nat.le_succ n)
  | ok c =>
    have hdevice := Context.device_of_adopt hruns
    refine h.extend (fun i hm => h.noInst i (by simpa using hm)) fun hwatch _ => ?_
    rw [devices_cons, Holder.device?, hdevice, Option.toFinset_some, ← Finset.insert_eq]
    refine hwatch.mute (hwatch.stamps.insert rfl) (forall_mute_of_quiet hquiet) fun d hsink => ?_
    have hne : d ≠ ⟨n, host.device, none⟩ := ne_of_apply_ne Device.sink? hsink
    simp [hne]

theorem Watched.turn {u v : WorkUnit} (h : Watched n (.unit u :: hs) past)
    (hturn : u.Turn events v) : Watched n (.unit v :: hs) (past ++ events) :=
  h.replace (by simp) (congrArg some hturn.continues.device) hturn.quiet le_rfl

theorem Watched.retire {u v : WorkUnit} (h : Watched n (.unit u :: hs) past)
    (hruns : (retireUnit hs u).Runs events v) : Watched n (.unit v :: hs) (past ++ events) := by
  obtain rfl := runs_retireUnit hruns
  refine h.replace (by simp) rfl (forall_quiet ?_ logs_retireUnit hruns) le_rfl
  exact only_retireUnit_spares fun _ => trivial

theorem Watched.release {p q : WorkPool} {units : Nat} (h : Watched n (.pool p :: hs) past)
    (hruns : (p.release units).Runs events q) : Watched n (.pool q :: hs) (past ++ events) := by
  obtain rfl := WorkPool.runs_release hruns
  refine h.replace (by simp) rfl (forall_quiet ?_ logs_release hruns) le_rfl
  exact WorkPool.only_release_spares

theorem Watched.bindTo {p : WorkPool} {family : UInt32} {units stamp : Nat}
    {r : Except Error Unit × WorkPool} (h : Watched n (.pool p :: hs) past)
    (hruns : (p.bindTo family units stamp).Runs events r) :
    Watched (n + 1) (.pool r.2 :: hs) (past ++ events) := by
  have hdevice : some r.2.device = some p.device := congrArg some (WorkPool.device_of_bindTo hruns)
  refine h.replace (by simp) hdevice (forall_quiet ?_ logs_bindTo hruns) (Nat.le_succ n)
  exact WorkPool.only_bindTo_spares

/-- All that can be done with a holder keeps the watch. -/
theorem watched_invariant :
    Session.Invariant (Monitor.history fun _ _ => True) (fun _ => True) Watched where
  perm h hperm := h.perm hperm
  drop h := meets_history fun _ _ hruns => h.drop hruns
  turns _ _ _ past hturn h _ := by
    rw [Monitor.after_history]
    exact ⟨Monitor.along_iff.2 fun _ _ _ _ => trivial, h.turn hturn⟩
  retire h := meets_history fun _ _ hruns => h.retire hruns
  release h _ := meets_history fun _ _ hruns => h.release hruns
  bindTo h _ := meets_history fun _ _ hruns => h.bindTo hruns
  share h hx hd := (watched_cons_iff hx hd rfl (by simp)).2 h
  newPool hx hd := watched_cons_iff hx hd rfl (by simp)
  newUnit hp := watched_cons_iff hp rfl rfl (by simp)
  establish h := meets_history fun _ _ hruns => h.establish hruns
  adopt h _ := meets_history fun _ _ hruns => h.adopt hruns

end Watched

end VulkanExec
