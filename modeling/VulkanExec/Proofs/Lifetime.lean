import VulkanExec.Proofs.Ledger.Session
import VulkanExec.Proofs.Numbering

/-!
# Lifetimes of driver objects

What any operations of a session, in any order and with any failures, do to the objects of a driver
whose new handles are fresh.

The main statements: `named_objects_are_live` says that nothing is used or released too late or too
early, and `released_exactly_once` that nothing is left behind when all holders are gone.
-/

namespace VulkanExec

/-- Whether an operation adopts a context. -/
def Operation.adopts : Operation → Bool
  | .adopt .. => true
  | _ => false

theorem Operation.hosted_of_not_adopts {host : Object → Prop} {operation : Operation}
    (h : operation.adopts = false) : operation.Hosted host := by
  cases operation <;> trivial

namespace Session

variable {host : Object → Prop} {operations later : List Operation} {s s' : Session}
  {outcomes outcomes' : List Outcome} {events events' : List Event}

/-- From the first operation on, fresh runs do what is permitted and leave a balanced session. -/
theorem run_permits (hrun : (empty.run operations).Runs events (outcomes, s))
    (hfresh : Fresh events) (hhosted : ∀ operation ∈ operations, operation.Hosted host) :
    (ledger host).Along (ledger host).permits (.start 0) events ∧
      s.Balanced host ((ledger host).after (.start 0) events) :=
  run_balanced balanced_empty hhosted events (outcomes, s) hrun hfresh.along_start

/-- A session that others follow is balanced, and so is all that follows. -/
theorem later_permits (hrun : (empty.run operations).Runs events (outcomes, s))
    (hlater : (s.run later).Runs events' (outcomes', s')) (hfresh : Fresh (events ++ events'))
    (hhosted : ∀ operation ∈ operations ++ later, operation.Hosted host) :
    (ledger host).Along (ledger host).permits (.start 0) (events ++ events') ∧
      (ledger host).Along (ledger host).permits
        (.start ((ledger host).after (.start 0) events).live) events' := by
  obtain ⟨hpermits, hbalanced⟩ := run_permits hrun hfresh.left fun x hx => hhosted x (by simp [hx])
  have hlater' (l : Ledger) (hl : l.live = ((ledger host).after (.start 0) events).live) :
      (ledger host).Along (ledger host).permits l events' := by
    have hs : s.Balanced host l := by
      rw [Balanced, hl]
      exact hbalanced
    refine (run_balanced hs (fun x hx => hhosted x (by simp [hx])) events' _ hlater ?_).1
    apply hfresh.along
    intro entry hentry
    rw [hl] at hentry
    obtain ⟨⟨x, hx, hcreates⟩, -⟩ :=
      hfresh.left.created_of_live hpermits (mem_objects_of_mem hentry)
    exact ⟨x, hx, hcreates⟩
  exact ⟨Monitor.along_append.2 ⟨hpermits, hlater' _ rfl⟩, hlater' _ rfl⟩

/-- A permitted command names what was created and not released. What it releases goes after all
that was created from it. -/
theorem kept_of_named {past rest : List Event} {c : Command} {answer : c.Answer}
    (hpermits : (ledger fun _ => False).Along (ledger fun _ => False).permits (.start 0)
      (past ++ .answered c answer :: rest))
    (hfresh : Fresh (past ++ .answered c answer :: rest)) :
    (∀ o ∈ c.named, (∃ e ∈ past, e.creates o) ∧ ∀ e ∈ past, e.releases o = false) ∧
      ∀ o, c.released = some o → ∀ e ∈ past, ∀ child, e.made = some child → o ∈ child.parents →
        ∃ e ∈ past, e.releases child.object := by
  obtain ⟨hpast, hrest⟩ := Monitor.along_append.1 hpermits
  have hallows : ((ledger fun _ => False).after (.start 0) past).Allows (fun _ => False) c :=
    hrest.1
  constructor
  · intro o ho
    exact hfresh.left.created_of_live hpast ((hallows.named o ho).resolve_right id)
  · intro o ho e hem child hmade hparent
    by_contra hkept
    apply hallows.childless o ho child (mem_live_of_made hem hmade _) hparent
    intro x hx
    by_contra hreleases
    exact hkept ⟨x, hx, by simpa using hreleases⟩

/-- The device of a holder is waited for before it is destroyed. -/
theorem waited_before_destroyed (hrun : (empty.run operations).Runs events (outcomes, s))
    (hlater : (s.run later).Runs events' (outcomes', s')) (hfresh : Fresh (events ++ events'))
    (hhosted : ∀ operation ∈ operations ++ later, operation.Hosted fun _ => False) {h : Holder}
    (hm : h ∈ s.all) {d : Device} (hd : h.device? = some d) {past rest : List Event}
    {answer : Unit} (he : events' = past ++ .answered (.destroyDevice d.handle) answer :: rest) :
    ∃ answer, .answered (.waitIdle d.handle) answer ∈ past := by
  obtain ⟨-, hlast⟩ := later_permits hrun hlater hfresh hhosted
  have hidle := (Monitor.along_iff.1 hlast past _ rest he).idle d.handle rfl
  rcases waited_or_created hidle with hnil | hwaited | ⟨e, hem, hcreates⟩
  · simp [Ledger.start] at hnil
  · exact hwaited
  · -- The device was created before, so its handle is not given out again.
    obtain ⟨hfirst, hbalanced⟩ :=
      run_permits hrun hfresh.left fun x hx => hhosted x (by simp [hx])
    have hknown := hbalanced.device_known (mem_devices.2 ⟨h, hm, hd⟩)
    obtain ⟨⟨x, hx, hcreated⟩, -⟩ :=
      hfresh.left.created_of_live hfirst (hknown.resolve_right id)
    have hagain := hfresh.not_created_again hx hcreated (e := e) (by simp [he, hem])
    rw [hcreates] at hagain
    contradiction

/-- Without adoptions, whatever was created and not released may be named, and nothing else. What
is released goes after all that was created from it, and the device of a holder goes after a wait
for it to be idle. -/
theorem named_objects_are_live (hrun : (empty.run operations).Runs events (outcomes, s))
    (hlater : (s.run later).Runs events' (outcomes', s')) (hfresh : Fresh (events ++ events'))
    (hnone : ∀ operation ∈ operations ++ later, operation.adopts = false) :
    (∀ past c answer rest, events ++ events' = past ++ .answered c answer :: rest →
      (∀ o ∈ c.named, (∃ e ∈ past, e.creates o) ∧ ∀ e ∈ past, e.releases o = false) ∧
      ∀ o, c.released = some o → ∀ e ∈ past, ∀ child, e.made = some child → o ∈ child.parents →
        ∃ e ∈ past, e.releases child.object) ∧
    ∀ h ∈ s.all, ∀ d, h.device? = some d → ∀ past answer rest,
      events' = past ++ .answered (.destroyDevice d.handle) answer :: rest →
        ∃ answer, .answered (.waitIdle d.handle) answer ∈ past := by
  have hhosted : ∀ operation ∈ operations ++ later, operation.Hosted fun _ => False := by
    intro x hx
    exact Operation.hosted_of_not_adopts (hnone x hx)
  constructor
  · intro past c answer rest he
    obtain ⟨hpermits, -⟩ := later_permits hrun hlater hfresh hhosted
    rw [he] at hfresh hpermits
    exact kept_of_named hpermits hfresh
  · intro h hm d hd past answer rest he
    exact waited_before_destroyed hrun hlater hfresh hhosted hm hd he

/-! ### A unit that outlives its context and its pool -/

/-- The run of operations against a driver that refuses nothing and counts its commands from `n`. -/
def played (s : Session) (operations : List Operation) (n : Nat) :
    (List Outcome × Session) × List Event × Nat :=
  (s.run operations).runWith (.numbering fun _ => false) n

theorem runs_played (s : Session) (operations : List Operation) (n : Nat) :
    (s.run operations).Runs (s.played operations n).2.1
      ((s.played operations n).1.1, (s.played operations n).1.2) :=
  Program.runs_runWith ..

theorem numbered_played (s : Session) (operations : List Operation) (n : Nat) :
    Numbered n (s.played operations n).2.1 (s.played operations n).2.2 :=
  numbered_runWith ..

/-- All but the unit is dropped. The driver gives out 78 for the device, 82 for the pool and 83 for
the buffer. -/
def sampleOperations : List Operation :=
  [.establish { Config.default with validation := false } 0 "c", .openPool "c" "p",
    .openUnit "c" "p" "u", .drop "c", .drop "p"]

/-- The session in which only the unit is left. -/
def sampleSession : Session := (empty.played sampleOperations 1).1.2

/-- The events before only the unit is left. -/
def sampleEvents : List Event := (empty.played sampleOperations 1).2.1

/-- The events of the drop of the unit. -/
def sampleDrop : List Event := (sampleSession.played [.drop "u"] 85).2.1

theorem fresh_sample : Fresh (sampleEvents ++ sampleDrop) := by
  have hrun := numbered_played empty sampleOperations 1
  have hdrop := numbered_played sampleSession [.drop "u"] 85
  have hlast : (empty.played sampleOperations 1).2.2 = 85 := by decide +kernel
  rw [hlast] at hrun
  exact (hrun.append hdrop).fresh Nat.one_pos (by decide +kernel)

set_option maxRecDepth 4000 in
theorem buffer_freed_before_pool :
    ∃ e ∈ sampleEvents ++ sampleDrop.take 2, e.releases ⟨.buffer, 83⟩ := by
  have hsafe := named_objects_are_live (runs_played empty sampleOperations 1)
    (runs_played sampleSession [.drop "u"] 85) fresh_sample (by decide)
  have hpast : sampleEvents ++ sampleDrop = (sampleEvents ++ sampleDrop.take 2) ++
      .answered (.destroyPool ⟨78⟩ ⟨82⟩) () :: sampleDrop.drop 3 := by
    rw [List.append_assoc]
    exact congrArg (sampleEvents ++ ·) rfl
  have hallocated : .answered (.allocateBuffer ⟨78⟩ ⟨82⟩) (.ok ⟨83⟩) ∈ sampleEvents :=
    List.mem_of_getElem? (i := 87) rfl
  exact (hsafe.1 _ _ _ _ hpast).2 ⟨.pool, 82⟩ rfl _ (List.mem_append_left _ hallocated) _ rfl
    (by simp [Command.named, Handle.object])

theorem hosted_by_all (operation : Operation) : operation.Hosted fun _ => True := by
  cases operation <;> trivial

/-- A buffer is freed through the pool that it was allocated from. -/
theorem allocated_of_freed (hrun : (empty.run operations).Runs events (outcomes, s))
    (hfresh : Fresh events) {past rest : List Event} {d : DeviceHandle} {p : PoolHandle}
    {b : BufferHandle} {answer : Unit}
    (he : events = past ++ .answered (.freeBuffer d p b) answer :: rest) :
    .answered (.allocateBuffer d p) (.ok b) ∈ past := by
  obtain ⟨hpermits, -⟩ := run_permits hrun hfresh fun x _ => hosted_by_all x
  have hallows : ((ledger fun _ => True).after (.start 0) past).Allows (fun _ => True)
      (.freeBuffer d p b) := Monitor.along_iff.1 hpermits past _ rest he
  obtain ⟨entry, hlive, hobject, hparents⟩ := hallows.released b.object rfl
  rcases mem_live_or_made hlive with hnone | ⟨x, hx, hmade⟩
  · simp [Ledger.start] at hnone
  · obtain ⟨d', p', rfl, hentry⟩ := eq_allocateBuffer_of_made hmade hobject
    have hd : d = d' := by
      simpa [hentry, Handle.object_ne] using hparents d.object (by simp [Command.named])
    have hp : p = p' := by
      simpa [hentry, Handle.object_ne] using hparents p.object (by simp [Command.named])
    rwa [hd, hp]

/-- While a holder of a device that was created here remains, neither the device nor its instance is
released. -/
theorem not_released_while_held (hrun : (empty.run operations).Runs events (outcomes, s))
    (hfresh : Fresh events) {h : Holder} (hm : h ∈ s.all) {d : Device} (hd : h.device? = some d)
    {i : Instance} (howner : d.owner = some i) :
    ∀ e ∈ events, e.releases d.handle.object = false ∧ e.releases i.handle.object = false := by
  obtain ⟨hpermits, hbalanced⟩ := run_permits hrun hfresh fun x _ => hosted_by_all x
  have hdevice : d ∈ devices s.all := mem_devices.2 ⟨h, hm, hd⟩
  have hkept : ∀ o ∈ objects d.entries, ∀ e ∈ events, e.releases o = false := by
    intro o ho
    obtain ⟨entry, hentry, rfl⟩ := mem_objects.1 ho
    refine (hfresh.created_of_live hpermits ?_).2
    rw [hbalanced.live_eq]
    exact mem_objects_of_mem (mem_owned.2 (.inl ⟨d, hdevice, hentry⟩))
  have hentries : d.entries = ⟨d.handle.object, [i.handle.object]⟩ ::ₘ i.entries := by
    simp [Device.entries, howner]
  rw [hentries] at hkept
  intro e he
  exact ⟨hkept _ (by simp) e he, hkept _ (by simp [mem_instance_entries]) e he⟩

/-- When all holders are gone, every object that was created has been released exactly once, and
nothing else has; a buffer through the pool that it was allocated from. While a holder remains, its
device and its instance do. -/
theorem released_exactly_once (hrun : (empty.run operations).Runs events (outcomes, s))
    (hfresh : Fresh events) :
    (s.all = [] → ∀ o, events.countP (·.releases o) = if events.any (·.creates o) then 1 else 0) ∧
    (∀ past d p b answer rest,
      events = past ++ .answered (.freeBuffer d p b) answer :: rest →
        .answered (.allocateBuffer d p) (.ok b) ∈ past) ∧
    ∀ h ∈ s.all, ∀ d i, h.device? = some d → d.owner = some i →
      ∀ e ∈ events, e.releases d.handle.object = false ∧ e.releases i.handle.object = false := by
  refine ⟨?_, ?_, ?_⟩
  · intro hnone
    obtain ⟨hpermits, hbalanced⟩ := run_permits hrun hfresh fun x _ => hosted_by_all x
    have hlive : ((ledger fun _ => True).after (.start 0) events).live = 0 := by
      rw [hbalanced.live_eq, hnone, owned_nil]
    exact hfresh.countP_releases hpermits hlive
  · intro past d p b answer rest he
    exact allocated_of_freed hrun hfresh he
  · intro h hm d i hd howner
    exact not_released_while_held hrun hfresh hm hd howner

theorem buffer_released_once :
    (empty.played (sampleOperations ++ [.drop "u"]) 1).2.1.countP (·.releases ⟨.buffer, 83⟩) =
      1 := by
  have hnone : (empty.played (sampleOperations ++ [.drop "u"]) 1).1.2.all.isEmpty := by
    decide +kernel
  have hcreated : (empty.played (sampleOperations ++ [.drop "u"]) 1).2.1.any
      (·.creates ⟨.buffer, 83⟩) := by
    decide +kernel
  have hlast : (empty.played (sampleOperations ++ [.drop "u"]) 1).2.2 ≤ UInt64.size := by
    decide +kernel
  have hnumbered := numbered_played empty (sampleOperations ++ [.drop "u"]) 1
  have hrun := runs_played empty (sampleOperations ++ [.drop "u"]) 1
  generalize empty.played (sampleOperations ++ [.drop "u"]) 1 = run at *
  obtain ⟨hgone, -, -⟩ := released_exactly_once hrun (hnumbered.fresh Nat.one_pos hlast)
  exact (hgone (List.isEmpty_iff.1 hnone) ⟨.buffer, 83⟩).trans (if_pos hcreated)

end Session

end VulkanExec
