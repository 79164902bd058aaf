import VulkanExec.NameTable
import VulkanExec.Session.Holder

/-!
# Sessions

A session is what a caller has at a time: holders under names of the caller's choice. An operation
works on the holders that it names; a new holder takes the place of one with the same name, which
is dropped after it.

## Main definitions

- `Session`: the named holders;
- `Operation`: what a caller can do;
- `Outcome`: an operation is done, or it failed, or a holder it needs is not there;
- `Session.perform`: do one operation;
- `Session.run`: do a list of them;
- `Session.finish`: drop all holders, in the order of their names.
-/

namespace VulkanExec

/-- The named holders of a caller. -/
structure Session where
  holders : NameTable Holder
  /-- The stamp of the next shared object. -/
  nextStamp : Nat

/-- What an operation looks for under a name. -/
inductive HolderSort where
  | any
  | context
  | device
  | pool
  | unit
  | inst
  deriving DecidableEq, Repr

/-- How an operation ends. -/
inductive Outcome where
  | done
  | failed (e : Error)
  /-- Nothing of this sort is there under the name that the operation gives. -/
  | absent (sort : HolderSort)
  deriving DecidableEq, Repr

/-- What a caller can do with a session. A name after `as` is that of the new holder. -/
inductive Operation where
  | establish (config : Config) (sink : SinkId) (as : String)
  | adopt (host : HostHandles) (config : Config) (as : String)
  /-- A further share of the device of a context, a share or a pool. -/
  | shareDevice (name as : String)
  /-- A pool on the family of a context. -/
  | openPool (context as : String)
  /-- A pool for which the driver has created nothing yet. -/
  | newPool (name as : String)
  | bindPool (pool : String) (family : UInt32)
  | releasePool (pool : String)
  /-- An allocated unit on the queue of a context. -/
  | openUnit (context pool as : String)
  /-- A unit for which nothing is allocated yet. -/
  | newUnit (pool : String) (queue : QueueHandle) (as : String)
  | allocate (unit : String)
  | record (unit : String)
  | finish (unit : String)
  | submit (unit : String) (milliseconds : UInt32)
  | await (unit : String) (milliseconds : UInt32)
  | retire (unit : String)
  /-- Drop a context and nothing else. -/
  | closeContext (context : String)
  | drop (name : String)

namespace Session

def empty : Session := ⟨.empty, 0⟩

/-- A session with a single context, which has the first stamp. -/
def ofContext (name : String) (context : Context) : Session :=
  ⟨NameTable.empty.insert name (.context context), context.device.stamp + 1⟩

/-- The holder under a name. -/
def get? (s : Session) (name : String) : Option Holder := s.holders.get? name

/-- All holders. -/
def all (s : Session) : List Holder := s.holders.values

/-- The session without the holder under a name. -/
def erase (s : Session) (name : String) : Session :=
  { s with holders := s.holders.erase name }

/-- The session with a holder under a name, in place of the one that was there. -/
def set (s : Session) (name : String) (h : Holder) : Session :=
  { s with holders := s.holders.insert name h }

@[simp] theorem get?_erase (s : Session) (name other : String) :
    (s.erase name).get? other = if other = name then none else s.get? other :=
  NameTable.get?_erase ..

@[simp] theorem get?_set (s : Session) (name other : String) (h : Holder) :
    (s.set name h).get? other = if other = name then some h else s.get? other :=
  NameTable.get?_insert ..

/-- All holders are the one under a name and those that remain without it. -/
theorem all_perm {s : Session} {name : String} {h : Holder} (hget : s.get? name = some h) :
    s.all.Perm (h :: (s.erase name).all) :=
  NameTable.values_perm hget

/-- A stamp that no shared object has, and the session that has used it up. -/
def stamped (s : Session) : Nat × Session := (s.nextStamp, { s with nextStamp := s.nextStamp + 1 })

/-! ## What is under a name -/

/-- The context under a name. -/
def context? (s : Session) (name : String) : Option Context :=
  match s.get? name with
  | some (.context c) => some c
  | _ => none

/-- The pool under a name. -/
def pool? (s : Session) (name : String) : Option WorkPool :=
  match s.get? name with
  | some (.pool p) => some p
  | _ => none

/-- The unit under a name. -/
def unit? (s : Session) (name : String) : Option WorkUnit :=
  match s.get? name with
  | some (.unit u) => some u
  | _ => none

/-- The instance created here that is under a name. -/
def ownInstance? (s : Session) (name : String) : Option Instance :=
  match s.get? name with
  | some (.inst i) => some i
  | _ => none

/-- The device that a context, a share or a pool has. -/
def device? (s : Session) (name : String) : Option Device :=
  match s.get? name with
  | some (.context c) => some c.device
  | some (.share d) => some d
  | some (.pool p) => some p.device
  | _ => none

/-- The handle of an instance, which is under a name itself or belongs to the context there. -/
def instanceHandle? (s : Session) (name : String) : Option InstanceHandle :=
  match s.get? name with
  | some (.context c) => some c.instanceHandle
  | some (.inst i) => some i.handle
  | _ => none

/-- The bare handle of the device that a context, a share or a bare device has. -/
def deviceHandle? (s : Session) (name : String) : Option DeviceHandle :=
  match s.get? name with
  | some (.context c) => some c.device.handle
  | some (.share d) => some d.handle
  | some (.bareDevice d) => some d
  | _ => none

/-- The units that hold the raw pool of a work pool. -/
def outstanding (s : Session) (pool : WorkPool) : Nat :=
  match pool.raw with
  | none => 0
  | some raw => unitsOn s.all raw

/-! ## Keeping and dropping -/

/-- Put a holder under a name and then drop the one that was there. -/
def store (s : Session) (name : String) (h : Holder) : Program Session := do
  let after := s.set name h
  if let some former := s.get? name then former.drop after.all
  return after

/-- Drop the holder under a name. -/
def dropName (s : Session) (name : String) : Program (Outcome × Session) :=
  match s.get? name with
  | none => return (.absent .any, s)
  | some h => do
    let after := s.erase name
    h.drop after.all
    return (.done, after)

/-- Store what a creation has made, if it has. -/
def keep (s : Session) (name : String) {α : Type} (holder : α → Holder)
    (made : Except Error α) : Program (Outcome × Session) :=
  match made with
  | .error e => return (.failed e, s)
  | .ok a => do
    let s ← s.store name (holder a)
    return (.done, s)

/-- The outcome of an operation on a holder, which is put back as it is then. -/
def update (s : Session) (name : String) (h : Holder) : Except Error Unit → Outcome × Session
  | .ok () => (.done, s.set name h)
  | .error e => (.failed e, s.set name h)

/-! ## Operations -/

/-- Work on the unit under a name. -/
def onUnit (s : Session) (name : String) (operation : WorkUnit → Program WorkUnit.Outcome) :
    Program (Outcome × Session) :=
  match s.unit? name with
  | none => return (.absent .unit, s)
  | some u => do
    let (result, u) ← operation u
    return s.update name (.unit u) result

/-- Make a pool on the family of a context. -/
def openPool (s : Session) (context name : String) : Program (Outcome × Session) :=
  match s.context? context with
  | none => return (.absent .context, s)
  | some c => do
    let (stamp, s) := s.stamped
    let (result, pool) ← (WorkPool.ofDevice c.device).bindTo c.family 0 stamp
    s.keep name .pool (result.map fun () => pool)

/-- Bind the pool under a name to a family. -/
def bindPool (s : Session) (name : String) (family : UInt32) : Program (Outcome × Session) :=
  match s.pool? name with
  | none => return (.absent .pool, s)
  | some p => do
    let (stamp, s) := s.stamped
    let (result, p) ← p.bindTo family (s.outstanding p) stamp
    return s.update name (.pool p) result

/-- Let go of the raw pool of the pool under a name. -/
def releasePool (s : Session) (name : String) : Program (Outcome × Session) :=
  match s.pool? name with
  | none => return (.absent .pool, s)
  | some p => do
    let p ← p.release (s.outstanding p)
    return s.update name (.pool p) (.ok ())

/-- Make an allocated unit on the queue of a context. -/
def openUnit (s : Session) (context pool name : String) : Program (Outcome × Session) :=
  match s.pool? pool, s.context? context with
  | none, _ => return (.absent .pool, s)
  | _, none => return (.absent .context, s)
  | some p, some c => do
    let (result, unit) ← (WorkUnit.ofPool p c.queue).allocate
    s.keep name .unit (result.map fun () => unit)

/-- Retire the unit under a name. -/
def retire (s : Session) (name : String) : Program (Outcome × Session) :=
  match s.unit? name with
  | none => return (.absent .unit, s)
  | some u => do
    let u ← retireUnit (s.erase name).all u
    return s.update name (.unit u) (.ok ())

/-- Do one operation. -/
def perform (s : Session) : Operation → Program (Outcome × Session)
  | .establish config sink name => do
    let (stamp, s) := s.stamped
    s.keep name .context (← Context.establish config sink stamp)
  | .adopt host config name => do
    let (stamp, s) := s.stamped
    s.keep name .context (← Context.adopt host config stamp)
  | .shareDevice source name =>
    match s.device? source with
    | none => return (.absent .device, s)
    | some d => s.keep name .share (.ok d)
  | .openPool context name => s.openPool context name
  | .newPool source name =>
    match s.device? source with
    | none => return (.absent .device, s)
    | some d => s.keep name .pool (.ok (WorkPool.ofDevice d))
  | .bindPool name family => s.bindPool name family
  | .releasePool name => s.releasePool name
  | .openUnit context pool name => s.openUnit context pool name
  | .newUnit pool queue name =>
    match s.pool? pool with
    | none => return (.absent .pool, s)
    | some p => s.keep name .unit (.ok (WorkUnit.ofPool p queue))
  | .allocate name => s.onUnit name WorkUnit.allocate
  | .record name => s.onUnit name WorkUnit.record
  | .finish name => s.onUnit name WorkUnit.finish
  | .submit name milliseconds => s.onUnit name (·.submit milliseconds)
  | .await name milliseconds => s.onUnit name (·.await milliseconds)
  | .retire name => s.retire name
  | .closeContext name =>
    match s.context? name with
    | none => return (.absent .context, s)
    | some _ => s.dropName name
  | .drop name => s.dropName name

/-! ## Many operations -/

/-- Do one operation after the other, and collect their outcomes. -/
def run (s : Session) : List Operation → Program (List Outcome × Session)
  | [] => return ([], s)
  | operation :: operations => do
    let (outcome, s) ← s.perform operation
    let (outcomes, s) ← s.run operations
    return (outcome :: outcomes, s)

/-- Drop the holders under the given names, one after the other. -/
def dropNames (s : Session) : List String → Program Session
  | [] => return s
  | name :: names => do
    let (_, s) ← s.dropName name
    s.dropNames names

/-- The names of all holders in order. -/
def names (s : Session) : List String := s.holders.names.mergeSort (· ≤ ·)

/-- Drop all holders, in the order of their names. -/
def finish (s : Session) : Program Session := s.dropNames s.names

end Session

end VulkanExec
