import VulkanExec.Scenario.Step
import VulkanExec.Scripted.Answer

/-!
# Playing scenarios

## Main definitions

- `Stage`: a session, the world that it works against, and the sinks made so far;
- `Stage.act`: do the action of a step;
- `Stage.step`: do a step and report it;
- `play`: do all steps, and at the end drop all holders.
-/

namespace VulkanExec

/-- A session in the middle of a scenario. -/
structure Stage where
  style : CallStyle
  session : Session
  world : World
  sinks : List Sink

/-- What an action leads to, apart from the stage after it. -/
structure Effect where
  value : Option Value
  error : Option Error
  taken : List Diagnostic
  logs : List LogRecord

namespace Effect

/-- Nothing to tell but a value. -/
def ofValue (value : Value) : Effect := ⟨some value, none, [], []⟩

/-- An action that could not even be read. -/
def ofError (e : Error) : Effect := ⟨none, some e, [], []⟩

/-- What came of an operation of the session. -/
def ofOutcome (outcome : Outcome) (logs : List LogRecord) : Effect :=
  match outcome with
  | .done => ⟨none, none, [], logs⟩
  | .failed e => ⟨none, some e, [], logs⟩
  | .absent sort => ⟨some (.absent sort), none, [], logs⟩

/-- A value that was asked for, or the error instead. -/
def ofResult {α : Type} (result : Except Error α) (value : α → Option Value)
    (logs : List LogRecord) : Effect :=
  match result with
  | .ok a => ⟨value a, none, [], logs⟩
  | .error e => ⟨none, some e, [], logs⟩

end Effect

/-! ## What is told -/

/-- The value of a command's answer. -/
def Command.value? : (c : Command) → c.Answer → Option Value
  | .getQueue .., queue => some (.handle queue.value)
  | .createPool .., answer => some (ofReply answer)
  | .allocateBuffer .., answer => some (ofReply answer)
  | .createFence .., answer => some (ofReply answer)
  | .beginBuffer .., .error result | .endBuffer .., .error result
  | .resetBuffer .., .error result | .resetFence .., .error result
  | .waitFence .., .error result | .submit .., .error result
  | .waitIdle _, .error result => some (.code result)
  | _, _ => none
where
  ofReply {kind : ObjectKind} : Reply (Handle kind) → Value
    | .ok h => .handle h.value
    | .error result => .code result

/-- The configuration at the end of a route. -/
def Route.config (route : Route) (patch : ConfigPatch) : Except Error Config :=
  match route with
  | .settings => patch.apply .default
  | .essentials => patch.essentials.apply .default

namespace RawMessage

/-- Bytes as the style hands them over: natively they end at the first zero. -/
def textOf (style : CallStyle) (raw : Option (List UInt8)) : String :=
  match raw, style with
  | none, _ => ""
  | some raw, .direct => Text.Utf8.text raw
  | some raw, .native => Text.Utf8.text (Text.Utf8.terminated raw)

/-- The message that a sink is given, if there is one to give. -/
def diagnostic? (style : CallStyle) (message : RawMessage) : Option Diagnostic :=
  if message.withoutData || (style = .native && message.withoutSink) then none
  else some ⟨.ofFlags message.flags, textOf style message.source, textOf style message.text⟩

end RawMessage

/-! ## Acting on a stage -/

namespace Stage

/-- Run a program against the world. -/
def run {α : Type} (stage : Stage) (p : Program α) : α × List LogRecord × Stage :=
  let (a, events, world) := p.runWith (World.driver stage.style) stage.world
  (a, Event.records events, { stage with world })

/-- Do something with the session. -/
def operate (stage : Stage) (p : Program (Outcome × Session)) : Effect × Stage :=
  let ((outcome, session), logs, stage) := stage.run p
  (.ofOutcome outcome logs, { stage with session })

/-- Answer a question to the driver. -/
def query {α : Type} (stage : Stage) (p : Program (Except Error α))
    (value : α → Option Value) : Effect × Stage :=
  let (result, logs, stage) := stage.run p
  (.ofResult result value logs, stage)

/-- A new sink. -/
def addSink (stage : Stage) (handler : Option HandlerScript) : SinkId × Stage :=
  (stage.sinks.length, { stage with sinks := stage.sinks ++ [sinkOf handler] })

/-- Deliver a message to every messenger alive. -/
def raise (stage : Stage) (message : RawMessage) : Effect × Stage :=
  let listeners := stage.world.messengers.map (·.2)
  let returned := match stage.style with
    | .direct => none
    | .native => some 0
  let value := Value.deliveries (listeners.map fun _ => returned)
  match message.diagnostic? stage.style with
  | none => (.ofValue value, stage)
  | some d =>
    let (deliveries, channel) := (Channel.mk stage.sinks listeners).broadcast d
    let taken := deliveries.filterMap fun
      | .handled _ d => some d
      | .logged _ => none
    let logs := deliveries.filterMap fun
      | .handled .. => none
      | .logged r => some r
    (⟨some value, none, taken, logs⟩, { stage with sinks := channel.sinks })

/-- Go on with what could be read, or answer the error instead. -/
def reading {α : Type} (stage : Stage) (read : Except Error α) (next : α → Effect × Stage) :
    Effect × Stage :=
  match read with
  | .error e => (.ofError e, stage)
  | .ok a => next a

/-- Go on with what is under a name, or answer that it is not there. -/
def finding {α : Type} (stage : Stage) (sort : HolderSort) (found : Option α)
    (next : α → Effect × Stage) : Effect × Stage :=
  match found with
  | none => (.ofValue (.absent sort), stage)
  | some a => next a

/-- Make an instance and keep it. What it is made of besides the instance is the value. -/
def keepInstance {α : Type} (stage : Stage) (name : String)
    (p : Program (Except Error (Instance × α))) (value : α → Option Value) :
    Effect × Stage :=
  let (made, logs, stage) := stage.run do
    let made ← p
    let (_, session) ← stage.session.keep name .inst (made.map (·.1))
    return (made.map (·.2), session)
  (.ofResult made.1 value logs, { stage with session := made.2 })

/-- Register a sink with an instance created here, with a table of entry points in which the names
in `missing` were not found. -/
def registerSink (stage : Stage) (name : String) (inst : Instance)
    (missing : List String) (sink : SinkId) : Effect × Stage :=
  stage.operate do
    let find (function : String) : Program (Option Address) :=
      return if missing.contains function then none else some ⟨1⟩
    match ← EntryTable.empty.resolve .perInstance find with
    | (.error e, _) => return (.failed e, stage.session)
    | (.ok (), table) =>
      match ← inst.registerSink table sink with
      | .error e => return (.failed e, stage.session)
      | .ok inst => return (.done, stage.session.set name (.inst inst))

/-- Create a bare device and keep it. -/
def createDevice (stage : Stage) (inst : InstanceHandle) (physical : PhysicalDeviceHandle)
    (family : UInt32) (capabilities : List Capability) (extensions : List String)
    (name : String) : Effect × Stage :=
  let (made, logs, stage) := stage.run do
    let made ← VulkanExec.createDevice inst physical family capabilities extensions
    let (_, session) ← stage.session.keep name .bareDevice (made.map (·.1))
    return (made, session)
  (.ofResult made.1 (fun (device, queue) => some (.bareDevice device queue)) logs,
    { stage with session := made.2 })

/-- Do the action of a step. -/
def act (stage : Stage) : Action → Effect × Stage
  | .setWorld patch => (⟨none, none, [], []⟩, { stage with world := stage.world.patched patch })
  | .operate operation => stage.operate (stage.session.perform operation)
  | .establish config route handler name =>
    stage.reading (route.config config) fun config =>
      let (sink, stage) := stage.addSink handler
      stage.operate (stage.session.perform (.establish config sink name))
  | .adopt host config route name =>
    stage.reading (route.config config) fun config =>
      stage.operate (stage.session.perform (.adopt host config name))
  | .showConfig config route =>
    stage.reading (route.config config) fun config => (.ofValue (.config config), stage)
  | .memoryType name bits flags =>
    stage.finding .context (stage.session.context? name) fun context =>
      let found := context.memoryType? bits flags
      (⟨found.map fun i => .index i.val, none, [], []⟩, stage)
  | .findEntries name names =>
    stage.finding .context (stage.session.context? name) fun context =>
      (.ofValue (.flags (names.map context.entries.contains)), stage)
  | .raiseMessage message => stage.raise message
  | .checkLayers config =>
    stage.reading (config.apply .default) fun config =>
      stage.query (VulkanExec.checkLayers config) fun () => none
  | .checkExtension config =>
    stage.reading (config.apply .default) fun config =>
      stage.query (checkDiagnosticExtension config) fun () => none
  | .createInstance config name =>
    stage.reading (config.apply .default) fun config =>
      stage.keepInstance name (do
        let made ← Instance.create config
        return made.map fun inst => (inst, ())) fun () => none
  | .establishInstance config handler name =>
    stage.reading (config.apply .default) fun config =>
      let (sink, stage) := stage.addSink handler
      stage.keepInstance name (Instance.establish config .empty sink) fun table =>
        some (.tableSize table.size)
  | .registerSink name missing handler =>
    stage.finding .inst (stage.session.ownInstance? name) fun inst =>
      let (sink, stage) := stage.addSink handler
      stage.registerSink name inst missing sink
  | .choose name capabilities extensions =>
    stage.reading (namedCapabilities capabilities) fun capabilities =>
      stage.finding .inst (stage.session.instanceHandle? name) fun inst =>
        stage.query (Candidate.choose inst capabilities extensions) fun choice =>
          some (.choice choice.candidate.handle choice.family)
  | .survey name physical =>
    stage.finding .inst (stage.session.instanceHandle? name) fun inst =>
      stage.query (return .ok (← Candidate.survey inst physical)) fun candidate =>
        some (.candidate candidate)
  | .createDevice name physical family capabilities extensions target =>
    stage.reading (namedCapabilities capabilities) fun capabilities =>
      stage.finding .inst (stage.session.instanceHandle? name) fun inst =>
        stage.createDevice inst physical family capabilities extensions target
  | .layerExtensions layer =>
    let (answer, logs, stage) := stage.run (.ask (.layerExtensions layer))
    let value := match answer with
      | .ok names => Value.names names
      | .error result => .code result
    (⟨some value, none, [], logs⟩, stage)
  | .deviceHandle name =>
    stage.finding .device (stage.session.deviceHandle? name) fun device =>
      (.ofValue (.handle device.value), stage)
  | .command name make =>
    stage.finding .device (stage.session.deviceHandle? name) fun device =>
      let (answer, logs, stage) := stage.run (.ask (make device))
      (⟨(make device).value? answer, none, [], logs⟩, stage)
  | .inspect name =>
    stage.finding .any (stage.session.get? name) fun holder =>
      let outstanding := match holder with
        | .pool p => stage.session.outstanding p
        | _ => 0
      (.ofValue (.holder holder outstanding), stage)

/-! ## Steps and reports -/

/-- The recording state of the unit under a name, and whether a submission is in flight. -/
def unitState (stage : Stage) (name : String) : Option (RecordingState × Bool) :=
  (stage.session.unit? name).map fun u => (u.state, u.inFlight)

/-- What is seen of an effect on a stage. -/
def report (stage : Stage) (effect : Effect) (unit : Option (RecordingState × Bool)) :
    Report where
  value := effect.value
  error := effect.error
  calls := stage.world.history
  taken := effect.taken
  logs := effect.logs
  population := stage.world.population
  unit

/-- Do a step and report it. -/
def step (stage : Stage) (s : Step) : Report × Stage :=
  let (effect, stage) := { stage with world := stage.world.forgetCalls }.act s.action
  (stage.report effect (stage.unitState s.subject), stage)

/-- Drop all holders and report it. -/
def finish (stage : Stage) : Report :=
  let stage := { stage with world := stage.world.forgetCalls }
  let (session, logs, stage) := stage.run stage.session.finish
  { stage with session }.report ⟨none, none, [], logs⟩ none

/-- Do steps one after the other, and then drop all holders. -/
def playFrom (stage : Stage) : List Step → List Report
  | [] => [stage.finish]
  | s :: steps =>
    let (report, stage) := stage.step s
    report :: stage.playFrom steps

end Stage

/-- The reports of all steps of a scenario and of its end. -/
def play (style : CallStyle) (world : World) (steps : List Step) : List Report :=
  Stage.playFrom ⟨style, .empty, world, []⟩ steps

end VulkanExec
