import VulkanExec.Proofs.Agreement.Programs
import VulkanExec.Proofs.Establishment.Answers
import VulkanExec.Proofs.Release

/-!
# Establishments without validation

Without validation a context comes about in the same way whatever the configuration says about
validation, whatever the driver says about layers, and whether or not it has the functions of the
messenger. Only what the table of entry points holds for those functions may differ.

## Main definitions

- `Config.SameBut`: configurations that differ at most in what they say about validation;
- `EntryTable.Alike`: tables that differ at most in the functions of the messenger;
- `Context.Alike`: contexts that differ at most in their tables, which are alike.

The main statements are `agree_resolveWith`, `Context.agree_establish` and `Context.agree_adopt`.
-/

namespace VulkanExec

open Program

/-- Configurations that differ at most in the layers and the diagnostic extension. -/
def Config.SameBut (config other : Config) : Prop :=
  other = { config with layers := other.layers, diagnosticExtension := other.diagnosticExtension }

namespace EntryTable

/-- Tables that differ at most in what they hold for the functions of the messenger. -/
def Alike (table other : EntryTable) : Prop :=
  ∀ name, name ∉ EntryPoint.messengerNames → table.get? name = other.get? name

/-- The same was found for the same entry points, but for the functions of the messenger. -/
def SameFindings (findings others : Findings) : Prop :=
  List.Forall₂ (fun f g => f.1 = g.1 ∧ (f.2 = g.2 ∨ f.1.name ∈ EntryPoint.messengerNames))
    findings others

variable {table other : EntryTable} {findings others : Findings}

theorem required_eq_false_of_mem {entry : EntryPoint} (hentry : entry ∈ EntryPoint.catalog)
    (hname : entry.name ∈ EntryPoint.messengerNames) : entry.required = false := by
  revert hname
  revert entry
  decide +kernel

/-- The same required names are missing. -/
theorem SameFindings.unresolved (h : SameFindings findings others)
    (hcatalog : ∀ f ∈ findings, f.1 ∈ EntryPoint.catalog) :
    EntryTable.unresolved findings = EntryTable.unresolved others := by
  induction h with
  | nil => rfl
  | @cons f g findings others hfg _ ih =>
    obtain ⟨entry, found⟩ := f
    obtain ⟨_, found'⟩ := g
    obtain ⟨rfl, hfound⟩ := hfg
    have htail := ih fun f hf => hcatalog f (List.mem_cons_of_mem _ hf)
    have hhead : (entry.required && found.isNone) = (entry.required && found'.isNone) := by
      rcases hfound with rfl | hname
      · rfl
      · rw [required_eq_false_of_mem (hcatalog _ List.mem_cons_self) hname]
        rfl
    simp only [EntryTable.unresolved] at htail ⊢
    simp only [List.filterMap_cons, hhead, htail]

/-- Tables stay alike when what was found is put into them. -/
theorem SameFindings.insertAll (h : SameFindings findings others) (ht : table.Alike other) :
    Alike (table.insertAll (located findings)) (other.insertAll (located others)) := by
  induction h generalizing table other with
  | nil => exact ht
  | @cons f g findings others hfg _ ih =>
    obtain ⟨entry, found⟩ := f
    obtain ⟨_, found'⟩ := g
    obtain ⟨rfl, hfound⟩ := hfg
    have hput (x y : Option Address) (hxy : x = y ∨ entry.name ∈ EntryPoint.messengerNames) :
        Alike (table.insertAll ((x.map (entry.name, ·)).toList))
          (other.insertAll ((y.map (entry.name, ·)).toList)) := by
      intro name hname
      rcases hxy with rfl | hentry
      · cases x with
        | none => exact ht name hname
        | some address => simp [NameTable.insertAll, ht name hname]
      · have hne : name ≠ entry.name := by
          rintro rfl
          exact hname hentry
        cases x <;> cases y <;> simp [NameTable.insertAll, hne, ht name hname]
    have hsplit (t : EntryTable) (x : Option Address) (rest : Findings) :
        t.insertAll (located ((entry, x) :: rest)) =
          (t.insertAll ((x.map (entry.name, ·)).toList)).insertAll (located rest) := by
      cases x <;> rfl
    rw [hsplit, hsplit]
    exact ih (hput _ _ hfound)

theorem SameFindings.record (h : SameFindings findings others)
    (hcatalog : ∀ f ∈ findings, f.1 ∈ EntryPoint.catalog) (ht : table.Alike other) :
    SameResult Alike (completed (table.record findings)) (completed (other.record others)) := by
  rw [completed_record, completed_record, h.unresolved hcatalog]
  split
  · exact .ok (h.insertAll ht)
  · exact .error _

/-- The same is found for entry points, but for the functions of the messenger. -/
theorem agree_search (inst : InstanceHandle) (entries : List EntryPoint) :
    Agree (fun findings others => SameFindings findings others ∧ findings.map Prod.fst = entries)
      (search (fun name => .ask (.resolve inst name)) entries)
      (search (fun name => .ask (.resolve inst name)) entries) := by
  induction entries with
  | nil => exact .done ⟨.nil, rfl⟩
  | cons entry entries ih =>
    refine .put rfl fun (x : Option Address) (y : Option Address) hxy => ?_
    have hrest : Agree
        (fun findings others =>
          SameFindings findings others ∧ findings.map Prod.fst = entry :: entries)
        (do let findings ← search (fun name => .ask (.resolve inst name)) entries
            return (entry, x) :: findings)
        (do let findings ← search (fun name => .ask (.resolve inst name)) entries
            return (entry, y) :: findings) := by
      refine ih.bind fun findings others h => .done ⟨.cons ⟨rfl, ?_⟩ h.1, ?_⟩
      · exact hxy.imp_right of_decide_eq_true
      · exact congrArg (entry :: ·) h.2
    -- An optional name that is missing is noted, on either side.
    dsimp only [Program.bind]
    split
    · split
      · exact .note hrest
      · exact .noteLeft hrest
    · split
      · exact .noteRight hrest
      · exact hrest

theorem agree_resolveWith (ht : table.Alike other) (scope : EntryScope) (inst : InstanceHandle) :
    Agree (SameResult Alike) (table.resolveWith scope inst) (other.resolveWith scope inst) := by
  simp only [resolveWith, resolve, bind_assoc, pure_bind]
  refine (agree_search inst _).bind fun findings others h => .done (h.1.record ?_ ht)
  intro f hf
  have hentry := List.mem_map_of_mem (f := Prod.fst) hf
  rw [h.2] at hentry
  exact (List.mem_filter.1 hentry).1

end EntryTable

section Steady

theorem steady_of_isTeardown {c : Command} (h : c.isTeardown) : c.Steady := by
  cases c <;> first | exact ⟨rfl, rfl⟩ | simp [Command.isTeardown] at h

theorem only_steady_close (i : Instance) : Only Command.Steady i.close :=
  only_instance_close (steady_of_isTeardown rfl) fun _ _ => steady_of_isTeardown rfl

theorem only_steady_negotiate {config : Config} {inst : InstanceHandle} :
    Only Command.Steady (Context.negotiate config inst) := by
  have hsteady (c : Command) (hlayers : c.asksLayers = false)
      (hmessenger : c.asksMessenger = false) : c.Steady := ⟨hlayers, hmessenger⟩
  refine only_negotiate ?_ (fun _ _ => hsteady _ rfl rfl) (fun _ _ => hsteady _ rfl rfl)
    fun _ => hsteady _ rfl rfl
  exact only_choose (hsteady _ rfl rfl) (fun _ => hsteady _ rfl rfl)
    (fun _ => hsteady _ rfl rfl) fun _ => hsteady _ rfl rfl

end Steady

/-! ## Without validation -/

namespace Config.SameBut

variable {config other : Config}

theorem refl (config : Config) : config.SameBut config := rfl

theorem validation (h : config.SameBut other) : other.validation = config.validation := by
  rw [SameBut] at h
  rw [h]

/-- The same is required of a device. -/
theorem required (h : config.SameBut other) :
    other.capabilities = config.capabilities ∧ other.extensions = config.extensions := by
  rw [SameBut] at h
  rw [h]
  exact ⟨rfl, rfl⟩

/-- An instance without validation is asked for in the same way. -/
theorem instanceSpec (h : config.SameBut other) (hoff : config.validation = false) :
    other.instanceSpec = config.instanceSpec := by
  rw [SameBut] at h
  rw [h]
  simp [Config.instanceSpec, hoff]

theorem create (h : config.SameBut other) (hoff : config.validation = false) :
    Instance.create other = Instance.create config := by
  unfold Instance.create
  rw [h.instanceSpec hoff, h.validation]

theorem negotiate (h : config.SameBut other) (inst : InstanceHandle) :
    Context.negotiate other inst = Context.negotiate config inst := by
  rw [Context.negotiate, h.required.1, h.required.2, ← Context.negotiate]

end Config.SameBut

namespace Instance

variable {config other : Config} {table table' : EntryTable}

theorem only_steady_create : Only Command.Steady (create config) := by
  unfold create
  split
  · trivial
  · refine ⟨⟨rfl, rfl⟩, fun answer => ?_⟩
    cases answer <;> trivial

/-- The same instance, and tables that are alike. -/
def SameEquipped (x y : Instance × EntryTable) : Prop := x.1 = y.1 ∧ x.2.Alike y.2

theorem agree_equip (hoff : config.validation = false) (hoff' : other.validation = false)
    (ht : table.Alike table') (i : Instance) (sink sink' : SinkId) :
    Agree (SameResult SameEquipped) (i.equip config table sink) (i.equip other table' sink') := by
  apply (EntryTable.agree_resolveWith ht .perInstance i.handle).bind
  rintro _ _ (⟨e⟩ | ⟨hfull⟩)
  · exact .done (.error e)
  · simp only [hoff, hoff', Bool.false_eq_true, if_false]
    exact .done (.ok ⟨rfl, hfull⟩)

theorem agree_establish (hc : config.SameBut other) (hoff : config.validation = false)
    (ht : table.Alike table') (sink sink' : SinkId) :
    Agree (SameResult SameEquipped) (establish config table sink)
      (establish other table' sink') := by
  have hoff' : other.validation = false := hc.validation.trans hoff
  unfold establish checkSupport
  simp only [hoff, hoff', Bool.false_eq_true, if_false, pure_bind]
  rw [hc.create hoff]
  apply Agree.sameBind only_steady_create
  rintro (e | i)
  · exact .done (.error e)
  · apply (agree_equip hoff hoff' ht i sink sink').bind
    rintro _ _ (⟨e⟩ | ⟨hequipped⟩)
    · exact Agree.sameBind (only_steady_close i) fun _ => .done (.error e)
    · exact .done (.ok hequipped)

end Instance

namespace Context

/-- Contexts that differ at most in their tables, which are alike. -/
structure Alike (c d : Context) : Prop where
  rest : d = { c with entries := d.entries }
  entries : c.entries.Alike d.entries

variable {config other : Config} {table table' : EntryTable}

namespace Alike

variable {c d : Context}

theorem refl (c : Context) : c.Alike c := ⟨rfl, fun _ _ => rfl⟩

theorem device (h : c.Alike d) : d.device = c.device := by
  rw [h.rest]

theorem queue (h : c.Alike d) : d.queue = c.queue := by
  rw [h.rest]

theorem family (h : c.Alike d) : d.family = c.family := by
  rw [h.rest]

end Alike

theorem agree_around (hc : config.SameBut other) (ht : table.Alike table') (device : Device)
    (inst : InstanceHandle) (physical : PhysicalDeviceHandle) (queue : QueueHandle)
    (family : UInt32) :
    Agree Alike (around config table device inst physical queue family)
      (around other table' device inst physical queue family) := by
  refine .ask ⟨rfl, rfl⟩ fun properties => .ask ⟨rfl, rfl⟩ fun memory => .done ⟨?_, ht⟩
  rw [Config.SameBut] at hc
  rw [hc]

/-- Two contexts that are placed alike are noted and kept. -/
theorem agree_noted {p q : Program Context} (h : Agree Alike p q) (text : String) :
    Agree (SameResult Alike)
      (do let c ← p
          .log .info (text ++ c.placement)
          return .ok c)
      (do let c ← q
          .log .info (text ++ c.placement)
          return .ok c) :=
  h.bind fun _ _ hcd => .note (.done (.ok hcd))

theorem agree_establish (hc : config.SameBut other) (hoff : config.validation = false)
    (sink sink' : SinkId) (stamp : Nat) :
    Agree (SameResult Alike) (establish config sink stamp) (establish other sink' stamp) := by
  apply (EntryTable.agree_resolveWith (fun _ _ => rfl) .global .null).bind
  rintro _ _ (⟨e⟩ | ⟨htable⟩)
  · exact .done (.error e)
  apply (Instance.agree_establish hc hoff htable sink sink').bind
  rintro _ _ (⟨e⟩ | ⟨hequipped⟩)
  · exact .done (.error e)
  rename_i x y
  obtain ⟨i, entries⟩ := x
  obtain ⟨_, entries'⟩ := y
  obtain ⟨rfl, hentries⟩ := hequipped
  dsimp only
  rw [hc.negotiate]
  apply Agree.sameBind only_steady_negotiate
  rintro (e | ⟨choice, device, queue⟩)
  · exact Agree.sameBind (only_steady_close i) fun _ => .done (.error e)
  · exact agree_noted (agree_around hc hentries ..) _

theorem agree_resolveAll (inst : InstanceHandle) :
    Agree (SameResult EntryTable.Alike) (resolveAll inst) (resolveAll inst) := by
  apply (EntryTable.agree_resolveWith (fun _ _ => rfl) .global .null).bind
  rintro _ _ (⟨e⟩ | ⟨htable⟩)
  · exact .done (.error e)
  · exact EntryTable.agree_resolveWith htable .perInstance inst

theorem agree_adopt (hc : config.SameBut other) (host : HostHandles) (stamp : Nat) :
    Agree (SameResult Alike) (adopt host config stamp) (adopt host other stamp) := by
  apply (agree_resolveAll host.inst).bind
  rintro _ _ (⟨e⟩ | ⟨hentries⟩)
  · exact .done (.error e)
  dsimp only
  rw [hc.required.1, hc.required.2]
  split
  · exact .done (.error _)
  · split
    · exact .done (.error _)
    · refine .ask ⟨rfl, rfl⟩ fun _ => .ask ⟨rfl, rfl⟩ fun _ => ?_
      exact agree_noted (agree_around hc hentries ..) _

end Context

end VulkanExec
