import VulkanExec.Proofs.Ledger.Working
import VulkanExec.Proofs.Operations

/-!
# Sessions and their ledgers

After every operation of a session, its holders own exactly the live objects: the accounts are an
invariant of all that can be done with a holder.

## Main definitions

- `Session.Balanced`: the holders of a session own the live objects;
- `Operation.Hosted`: an adopted context is around handles that the caller brought along.

The main statement, `Session.run_balanced`, is about any operations in any order.
-/

namespace VulkanExec

/-- What an operation adopts is what the caller brought along. -/
def Operation.Hosted (host : Object → Prop) : Operation → Prop
  | .adopt handles _ _ => host handles.inst.object ∧ host handles.device.object
  | _ => True

variable {host : Object → Prop} {n : Nat} {h x : Holder} {hs : List Holder}
  {live : Multiset Entry} {l : Ledger}

/-- What is under a host's handles may be named at any time. -/
def HostHandles.Named (host : Object → Prop) (handles : HostHandles) : Prop :=
  host handles.inst.object ∧ host handles.device.object

theorem Operation.Hosted.brings {operation : Operation} (hhosted : operation.Hosted host) :
    operation.Brings (HostHandles.Named host) := by
  cases operation <;> exact hhosted

/-! ## Holders that own nothing -/

/-- A holder of nothing but a device that is held already may come and go. -/
theorem accounts_cons_iff_of_device {d : Device} (hx : x ∈ hs) (hxd : x.device? = some d)
    (hdevice : h.device? = some d) (hpool : h.rawPool? = none) (hentries : h.entries = 0)
    (hown : h.ownPool? = none) (hunit : ∀ u, h ≠ .unit u) :
    Accounts host n (h :: hs) live ↔ Accounts host n hs live := by
  have hheld : ∀ d', h.device? = some d' → d' ∈ devices hs := by
    intro d' hd'
    obtain rfl : d = d' := by simpa [hdevice] using hd'
    exact mem_devices.2 ⟨x, hx, hxd⟩
  have hnone : ∀ raw, h.rawPool? = some raw → raw ∈ rawPools hs := by simp [hpool]
  constructor
  · intro hacc
    exact hacc.forget hheld hnone hentries
  · intro hacc
    obtain ⟨d', hd', hhost⟩ := (hacc.coherent.sound x hx).device
    obtain rfl : d' = d := by simpa [hxd] using hd'.symm
    have hsound : h.Sound host :=
      ⟨⟨d', hdevice, hhost⟩, by simp [hpool], fun u hu => absurd hu (hunit u)⟩
    exact hacc.hold hsound hheld hnone hentries hown

/-- A unit for which nothing is allocated yet may come and go. -/
theorem accounts_ofPool_iff {p : WorkPool} {queue : QueueHandle} (hp : .pool p ∈ hs) :
    Accounts host n (.unit (.ofPool p queue) :: hs) live ↔ Accounts host n hs live := by
  have hsound := WorkUnit.sound_ofPool p queue
  have hheld : ∀ d, (Holder.unit (.ofPool p queue)).device? = some d → d ∈ devices hs :=
    fun d hd => mem_devices.2 ⟨_, hp, hd⟩
  have hshared : ∀ raw, (Holder.unit (.ofPool p queue)).rawPool? = some raw → raw ∈ rawPools hs :=
    fun raw hraw => mem_rawPools.2 ⟨_, hp, hraw⟩
  have hentries := hsound.entries_eq_zero rfl
  constructor
  · intro hacc
    exact hacc.forget hheld hshared hentries
  · intro hacc
    obtain ⟨hdevice, hpool, -⟩ := hacc.coherent.sound _ hp
    refine hacc.hold ⟨hdevice, hpool, ?_⟩ hheld hshared hentries rfl
    rintro _ ⟨⟩
    exact hsound

/-! ## The invariant -/

theorem Accounted.added {α : Type} {holder : α → Holder} {made : Except Error α}
    (hmade : Accounted host n holder hs made l.live) :
    Session.Added (fun hs (t : Ledger) => Accounts host n hs t.live) holder hs made l := by
  cases made <;> exact hmade

/-- All that can be done with a holder keeps the accounts. -/
theorem accounts_invariant : Session.Invariant (ledger host) (HostHandles.Named host)
    fun n hs l => Accounts host n hs l.live where
  perm hacc hperm := hacc.perm hperm
  drop hacc := hacc.drop
  turns := accounts_keptByTurns
  retire hacc := hacc.retire.mono fun _ _ ⟨hv, ht⟩ => hv ▸ ht
  release hacc hunits := (hacc.release_pool hunits).mono fun _ _ ⟨hq, ht⟩ => hq ▸ ht
  bindTo hacc hunits := hacc.bind_pool hunits
  share hacc hx hd := (accounts_cons_iff_of_device hx hd rfl rfl rfl rfl (by simp)).2 hacc
  newPool hx hd := accounts_cons_iff_of_device hx hd rfl rfl rfl rfl (by simp)
  newUnit hp := accounts_ofPool_iff hp
  establish hacc := hacc.establish.mono fun _ _ hmade => hmade.added
  adopt hacc hnamed := (hacc.adopt hnamed.1 hnamed.2).mono fun _ _ hmade => hmade.added

namespace Session

variable {s : Session}

/-- The holders of a session own exactly the live objects. -/
def Balanced (host : Object → Prop) (s : Session) (l : Ledger) : Prop :=
  Accounts host s.nextStamp s.all l.live

theorem balanced_empty : empty.Balanced host (.start 0) := accounts_nil

/-- Any operations keep a session balanced. -/
theorem run_balanced (hs : s.Balanced host l) {operations : List Operation}
    (hhosted : ∀ operation ∈ operations, operation.Hosted host) :
    (ledger host).Meets (s.run operations) l fun r t => r.2.Balanced host t :=
  accounts_invariant.run hs fun operation hmem => (hhosted operation hmem).brings

end Session

end VulkanExec
