import VulkanExec.WorkPool

/-!
# Units of work

A unit of work is one command buffer and one fence, allocated together and freed together, and
used again for any number of rounds: record, finish, submit, wait, reset.

    initial --record--> recording --finish--> executable --submitted and signaled--> initial

A wait that times out leaves the submission in flight. The unit then stays executable, and the
caller may wait again.

## Main definitions

- `WorkUnit`: the buffer, the fence, the recording state, and whether a submission is in flight;
- `WorkUnit.allocate`: get the buffer and the fence;
- `WorkUnit.record`, `WorkUnit.finish`, `WorkUnit.submit`, `WorkUnit.await`: one round;
- `WorkUnit.retire`: free the buffer and the fence for good.

Every operation ends with the unit as it then is, also when it fails.
-/

namespace VulkanExec

/-- A reusable command buffer with the fence of its submissions. -/
structure WorkUnit where
  device : Device
  /-- The pool that the buffer comes from, until the unit is retired. -/
  pool : Option RawPool
  queue : QueueHandle
  buffer : BufferHandle
  fence : FenceHandle
  state : RecordingState
  /-- A submission was made whose fence has not been seen signaled. -/
  inFlight : Bool
  deriving DecidableEq, Repr

namespace WorkUnit

/-- A unit on a pool and a queue. Nothing is allocated yet. -/
def ofPool (pool : WorkPool) (queue : QueueHandle) : WorkUnit where
  device := pool.device
  pool := pool.raw
  queue := queue
  buffer := .null
  fence := .null
  state := .initial
  inFlight := false

/-- Whether the buffer and the fence have been allocated. -/
def isAllocated (unit : WorkUnit) : Bool := !unit.buffer.isNull

/-- What an operation ends with: its success or error, and the unit. -/
abbrev Outcome := Except Error Unit × WorkUnit

/-- Allocate the buffer and the fence, both or none of them. -/
def allocate (unit : WorkUnit) : Program Outcome :=
  match unit.pool with
  | none => return (.error (.notInitialized "work pool"), unit)
  | some raw =>
    if unit.isAllocated then return (.ok (), unit)
    else do
      match ← .ask (.allocateBuffer unit.device.handle raw.handle) with
      | .error result => return (.error (.bufferAllocationFailed result), unit)
      | .ok buffer =>
        match ← .ask (.createFence unit.device.handle false) with
        | .error result =>
          let _ ← .ask (.freeBuffer unit.device.handle raw.handle buffer)
          return (.error (.fenceCreationFailed result), unit)
        | .ok fence =>
          return (.ok (), { unit with buffer, fence, state := .initial, inFlight := false })

/-- Run an operation that needs the buffer and the fence. -/
def whenAllocated (unit : WorkUnit) (operation : Program Outcome) : Program Outcome :=
  if unit.isAllocated then operation
  else return (.error (.notInitialized "unit of work"), unit)

/-- Log a step between recording states. -/
def logStep (unit : WorkUnit) (before after : RecordingState) : Program Unit :=
  .log .trace ("unit " ++ unit.buffer.text ++ ": " ++ before.text ++ " -> " ++ after.text)

/-- Begin a recording, unless one is going on. -/
def record (unit : WorkUnit) : Program Outcome :=
  unit.whenAllocated <|
    match unit.state with
    | .recording => return (.ok (), unit)
    | .executable => return (.error (.cannotBegin .executable), unit)
    | .initial => do
      match ← .ask (.beginBuffer unit.device.handle unit.buffer oneTimeSubmit) with
      | .error result => return (.error (.beginFailed result), unit)
      | .ok () =>
        unit.logStep .initial .recording
        return (.ok (), { unit with state := .recording })

/-- Finish the recording. -/
def finish (unit : WorkUnit) : Program Outcome :=
  unit.whenAllocated <|
    if unit.state ≠ .recording then return (.error (.cannotEnd unit.state), unit)
    else do
      match ← .ask (.endBuffer unit.device.handle unit.buffer) with
      | .error result => return (.error (.endFailed result), unit)
      | .ok () =>
        unit.logStep .recording .executable
        return (.ok (), { unit with state := .executable })

/-- A number of milliseconds in nanoseconds; the product fits into 64 bits. -/
def nanoseconds (milliseconds : UInt32) : UInt64 := milliseconds.toUInt64 * 1000000

/-- Reset the buffer after its submission was seen done. -/
def reset (unit : WorkUnit) : Program Outcome := do
  match ← .ask (.resetBuffer unit.device.handle unit.buffer) with
  | .error result => return (.error (.submissionFailed "vkResetCommandBuffer" result), unit)
  | .ok () =>
    unit.logStep .executable .initial
    return (.ok (), { unit with state := .initial })

/-- Wait for the submission in flight, if there is one, and reset the buffer after it. -/
def await (unit : WorkUnit) (milliseconds : UInt32) : Program Outcome :=
  unit.whenAllocated <|
    if !unit.inFlight then return (.ok (), unit)
    else do
      match ← .ask (.waitFence unit.device.handle unit.fence (nanoseconds milliseconds)) with
      | .ok () => reset { unit with inFlight := false }
      | .error result =>
        if result = .timeout then
          .log .debug ("unit " ++ unit.buffer.text ++ ": wait timed out after " ++
            toString milliseconds ++ " ms")
          return (.error (.submissionTimeout milliseconds), unit)
        else return (.error (.submissionFailed "vkWaitForFences" result), unit)

/-- Submit the finished recording and wait for it. After a success the buffer is reset; after a
time-out the submission is in flight. -/
def submit (unit : WorkUnit) (milliseconds : UInt32) : Program Outcome :=
  unit.whenAllocated <|
    if unit.state ≠ .executable then return (.error (.cannotSubmit unit.state), unit)
    else if unit.inFlight then return (.error .submissionPending, unit)
    else do
      match ← .ask (.resetFence unit.device.handle unit.fence) with
      | .error result => return (.error (.submissionFailed "vkResetFences" result), unit)
      | .ok () =>
        match ← .ask (.submit unit.device.handle unit.queue unit.buffer unit.fence) with
        | .error result => return (.error (.submissionFailed "vkQueueSubmit" result), unit)
        | .ok () => await { unit with inFlight := true } milliseconds

/-- See to it that no submission is in flight before the buffer and the fence go. -/
def settle (unit : WorkUnit) : Program Unit :=
  if unit.inFlight then do
    .log .warn ("unit " ++ unit.buffer.text ++
      " shut down with a submission in flight; waiting for device idle")
    Device.drain unit.device.handle
  else return ()

/-- Free the fence and the buffer for good. The unit lets go of its pool, which is for the caller
to destroy if nobody else holds it. -/
def retire (unit : WorkUnit) : Program WorkUnit := do
  unit.settle
  if !unit.fence.isNull then
    let _ ← .ask (.destroyFence unit.device.handle unit.fence)
  if let some raw := unit.pool then
    if unit.isAllocated then
      let _ ← .ask (.freeBuffer unit.device.handle raw.handle unit.buffer)
  return { unit with pool := none, buffer := .null, fence := .null, state := .initial,
                     inFlight := false }

/-- The unit as debug output shows it. -/
def describe (unit : WorkUnit) : String :=
  "UnitOfWork \x7b command_buffer: " ++ unit.buffer.text ++ ", fence: " ++ unit.fence.text ++
    ", state: " ++ unit.state.text ++ ", in_flight: " ++ toString unit.inFlight ++ ", .. \x7d"

end WorkUnit

end VulkanExec
