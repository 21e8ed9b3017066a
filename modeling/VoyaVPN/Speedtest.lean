import VoyaVPN.AppConfig
import VoyaVPN.RustText
import VoyaVPN.TaskPool

/-! The speed test of profiles: the pending messages that are stored for the profiles selected, the
tests that replace them, in order, in batches or side by side, and what ends a test early. -/
namespace Speedtest

open RustText Entities AppConfig TaskPool

section Results

inductive SpeedTestKind where
  | tcpConnect
  | latency
  | udp
  | download
  | mixed
  deriving DecidableEq, Repr

def pendingMessages : List String := ["Speedtesting", "Speedtesting wait"]

/-- The message that is stored for a profile until it is tested. -/
def pendingMessage : SpeedTestKind → String
  | .tcpConnect | .latency | .udp => "Speedtesting"
  | .download | .mixed => "Speedtesting wait"

/-- A speed, by the text that `{:.0}` makes of it. -/
structure Speed where
  text : String
  plain : text ∉ pendingMessages

def Speed.zero : Speed := ⟨"0", by decide⟩

/-- `other` stands for the errors whose own text is shown; none is a pending message. -/
inductive SpeedtestError where
  | cancelled
  | timedOut
  | connect
  | udp
  | validation (indexId message : String)
  | noAvailablePort (start : Int)
  | invalidSocksPort (port : Int)
  | other (raw : String) (plain : raw ∉ pendingMessages)

def SpeedtestError.display : SpeedtestError → String
  | .cancelled => "speedtest was cancelled"
  | .timedOut => "request timed out"
  | .connect => "proxy connection failed"
  | .udp => "UDP test failed"
  | .validation indexId message =>
    "speedtest config validation failed for " ++ indexId ++ ": " ++ message
  | .noAvailablePort start => "no available speedtest port at or after " ++ toString start
  | .invalidSocksPort port =>
    "speedtest local SOCKS port " ++ toString port ++ " is outside the valid range"
  | .other raw _ => raw

def speedtestErrorMessage : SpeedtestError → String
  | .cancelled => "cancelled"
  | .timedOut => "request timed out"
  | .connect => "proxy connection failed"
  | .udp => "UDP test failed"
  | error =>
    let raw := error.display
    let lower := toAsciiLowercase raw
    if containsStr lower "timed out" || containsStr lower "timeout" then "request timed out"
    else if containsStr lower "connection refused" then "proxy connection refused"
    else if containsStr lower "connection reset" || containsStr lower "connection closed" then
      "proxy connection closed"
    else raw

structure SpeedTestResult where
  action : SpeedTestKind
  indexId : String
  delay : Option Int
  speed : Option Speed
  message : Option String
  ipInfo : Option String

inductive Update where
  | delay (value : Int)
  | speed (value : Speed)
  | message (value : String)
  | ipInfo (value : String)

structure Write where
  indexId : String
  update : Update

structure Row where
  delay : Int
  speed : Speed
  message : Option String
  ipInfo : Option String

def Row.set (row : Row) : Update → Row
  | .delay value => { row with delay := value }
  | .speed value => { row with speed := value }
  | .message value => { row with message := some value }
  | .ipInfo value => { row with ipInfo := some value }

/-- The rows after some writes, the newest first. -/
def stored (rows : String → Row) : List Write → String → Row
  | [], indexId => rows indexId
  | write :: log, indexId =>
    if write.indexId = indexId then (stored rows log indexId).set write.update
    else stored rows log indexId

end Results

section Selection

structure ServerTestItem where
  indexId : String
  address : String
  serverPort : Int
  socksPort : Nat
  configType : ConfigType
  queueNum : Nat
  profile : ProfileItem
  coreType : CoreType

/-- `i32::saturating_add` of a place in the list. -/
def saturatingPort (base : Int) (place : Nat) : Int :=
  max (-2 ^ 31) (min (base + min place (2 ^ 31 - 1)) (2 ^ 31 - 1))

def basePort (config : Config) : Int :=
  addI32 ((config.inbound.head?.map (·.localPort)).getD defaultLocalPort)
    InboundProtocol.speedtest.portOffset

def testable (profile : ProfileItem) : Bool :=
  profile.configType != .custom && (profile.configType.isComplexType || decide (0 < profile.port))

def testItem (config : Config) (entry : ProfileItem × Nat) :
    Except SpeedtestError ServerTestItem :=
  let socksPort := saturatingPort (basePort config) entry.2
  if 0 ≤ socksPort ∧ socksPort < 2 ^ 16 then
    .ok { indexId := entry.1.indexId
          address := entry.1.address
          serverPort := entry.1.port
          socksPort := socksPort.toNat
          configType := entry.1.configType
          queueNum := entry.2
          profile := entry.1
          coreType := .singBox }
  else .error (.invalidSocksPort socksPort)

def selectTestItems (profiles : List ProfileItem) (config : Config) (indexIds : List String) :
    Except SpeedtestError (List ServerTestItem) :=
  let selected :=
    if indexIds = [] then profiles
    else profiles.filter fun profile => indexIds.contains profile.indexId
  (selected.zipIdx.filter fun entry => testable entry.1).mapM (testItem config)

end Selection

section Ports

variable (available : Nat → Bool)

/-- The search for a port that is neither taken nor reserved, up to the last one. -/
def searchPort (used : List Nat) : Nat → Nat → Option Nat
  | 0, _ => none
  | fuel + 1, port =>
    if !used.contains port && available port then some port
    else if port = 65535 then none
    else searchPort used fuel (port + 1)

def findFreeSpeedtestPort (start : Int) (used : List Nat) : Except SpeedtestError Nat :=
  if 0 ≤ start ∧ start < 2 ^ 16 then
    match searchPort available used (2 ^ 16) start.toNat with
    | some port => .ok port
    | none => .error (.noAvailablePort start)
  else .error (.invalidSocksPort start)

end Ports

section Surroundings

structure RealPingProbeResult where
  delay : Int
  ipInfo : Option String

/-- What a test asks of its surroundings: the database and the builder of configurations, the ports
of the machine, the core processes, and the network. -/
inductive Question where
  | loadEnv
  | localPorts (start : Int) (used : List Nat)
  | build (profile : ProfileItem)
  | startCore (coreType : CoreType) (entries : List (String × Nat))
  | tcping (item : ServerTestItem)
  | realping (socksPort : Nat)
  | downloadSpeed (socksPort : Nat)
  | udpTest (socksPort : Nat)

/-- A configuration is built for a core, or has errors. -/
abbrev Answer : Question → Type
  | .loadEnv => Except SpeedtestError Unit
  | .localPorts _ _ => Nat → Bool
  | .build _ => Except (List String) CoreType
  | .startCore _ _ => Except SpeedtestError Unit
  | .tcping _ => Except SpeedtestError Int
  | .realping _ => Except SpeedtestError RealPingProbeResult
  | .downloadSpeed _ => Except SpeedtestError Speed
  | .udpTest _ => Except SpeedtestError Int

abbrev Test (α : Type) : Type := Task Write SpeedtestError Answer α

def writes : List Write → Test Unit
  | [] => .done ()
  | write :: rest => .write write (writes rest)

/-- An answer that is an error ends the test. -/
def require (question : Question) {α : Type} (read : Answer question → Except SpeedtestError α) :
    Test α :=
  .ask question fun answer =>
    match read answer with
    | .ok value => .done value
    | .error error => .fail error

end Surroundings

section Probes

def persistSpeedtestResult (result : SpeedTestResult) : Test Unit :=
  writes
    ((result.delay.toList.map fun delay => ⟨result.indexId, .delay delay⟩) ++
      (result.speed.toList.map fun speed => ⟨result.indexId, .speed speed⟩) ++
        (result.message.toList.map fun message => ⟨result.indexId, .message message⟩) ++
          result.ipInfo.toList.map fun ipInfo => ⟨result.indexId, .ipInfo ipInfo⟩)

def persisted (result : SpeedTestResult) : Test SpeedTestResult :=
  (persistSpeedtestResult result).bind fun _ => .done result

/-- A result that is a delay alone. -/
def delayResult (action : SpeedTestKind) (indexId : String) (delay : Int) : SpeedTestResult :=
  { action, indexId, delay := some delay, speed := none, message := some (toString delay)
    ipInfo := none }

def delayOrFailed (answer : Except SpeedtestError Int) : Int :=
  match answer with
  | .ok delay => delay
  | .error _ => -1

def runTcping (action : SpeedTestKind) (item : ServerTestItem) : Test SpeedTestResult :=
  .ask (.tcping item) fun answer =>
    persisted (delayResult action item.indexId (delayOrFailed answer))

def runUdp (action : SpeedTestKind) (item : ServerTestItem) : Test SpeedTestResult :=
  .ask (.udpTest item.socksPort) fun answer =>
    persisted (delayResult action item.indexId (delayOrFailed answer))

def realpingResult (action : SpeedTestKind) (indexId : String) :
    Except SpeedtestError RealPingProbeResult → SpeedTestResult
  | .ok realping =>
    { delayResult action indexId realping.delay with ipInfo := realping.ipInfo }
  | .error error =>
    { action, indexId, delay := some (-1), speed := none
      message := some (speedtestErrorMessage error), ipInfo := some "Skipped" }

def runRealping (action : SpeedTestKind) (item : ServerTestItem) : Test SpeedTestResult :=
  .ask (.realping item.socksPort) fun answer =>
    persisted (realpingResult action item.indexId answer)

def downloadResult (action : SpeedTestKind) (indexId : String) :
    Except SpeedtestError Speed → SpeedTestResult
  | .ok speed =>
    { action, indexId, delay := none, speed := some speed, message := some speed.text
      ipInfo := none }
  | .error error =>
    { action, indexId, delay := none, speed := some Speed.zero
      message := some (speedtestErrorMessage error), ipInfo := none }

def runDownload (action : SpeedTestKind) (item : ServerTestItem) : Test SpeedTestResult :=
  .ask (.downloadSpeed item.socksPort) fun answer =>
    persisted (downloadResult action item.indexId answer)

/-- The speed is measured where there is a delay and the run is not cancelled. -/
def runRealpingAndDownload (action : SpeedTestKind) (item : ServerTestItem) :
    Test (List SpeedTestResult) :=
  (runRealping action item).bind fun realping =>
    if 0 < realping.delay.getD 0 then
      .check fun cancelled =>
        match cancelled with
        | true => .done [realping]
        | false => (runDownload action item).bind fun speed => .done [realping, speed]
    else .done [realping]

def single (test : Test SpeedTestResult) : Test (List SpeedTestResult) :=
  test.bind fun result => .done [result]

def runItem (action : SpeedTestKind) (item : ServerTestItem) : Test (List SpeedTestResult) :=
  match action with
  | .tcpConnect => single (runTcping action item)
  | .latency => single (runRealping action item)
  | .udp => single (runUdp action item)
  | .download | .mixed => runRealpingAndDownload action item

end Probes

section Preparation

structure PreparedSpeedtestItem where
  item : ServerTestItem
  runCoreType : CoreType

/-- The entry of a prepared item in the configuration of a core. -/
def PreparedSpeedtestItem.entry (prepared : PreparedSpeedtestItem) : String × Nat :=
  (prepared.item.indexId, prepared.item.socksPort)

def prepareItems : List Nat → List ServerTestItem → Test (List PreparedSpeedtestItem)
  | _, [] => .done []
  | used, item :: items =>
    (require (.localPorts item.socksPort used)
      fun available => findFreeSpeedtestPort available item.socksPort used).bind fun socksPort =>
    (require (.build item.profile) fun built =>
      built.mapError fun errors => .validation item.indexId ("; ".intercalate errors)).bind
        fun coreType =>
    (prepareItems (socksPort :: used) items).bind fun rest =>
      .done ({ item := { item with socksPort, coreType }, runCoreType := coreType } :: rest)

def prepareSpeedtestItems (items : List ServerTestItem) : Test (List PreparedSpeedtestItem) :=
  (require .loadEnv id).bind fun _ => prepareItems [] items

/-- The item is put into the group of its core, or begins one. -/
def addToGroup (groups : List (CoreType × List PreparedSpeedtestItem))
    (prepared : PreparedSpeedtestItem) : List (CoreType × List PreparedSpeedtestItem) :=
  match groups with
  | [] => [(prepared.runCoreType, [prepared])]
  | group :: groups =>
    if group.1 = prepared.runCoreType then (group.1, group.2 ++ [prepared]) :: groups
    else group :: addToGroup groups prepared

def groupPreparedItems (prepared : List PreparedSpeedtestItem) :
    List (CoreType × List PreparedSpeedtestItem) :=
  prepared.foldl addToGroup []

def speedtestBatchPageSize : Nat := 1000

/-- A number of the settings, where it is there and positive. -/
def positive (value : Option Int) (fallback : Nat) : Nat :=
  match value with
  | some value => if 0 < value then value.toNat else fallback
  | none => fallback

def speedtestPageSize (config : Config) (selectedCount : Nat) : Nat :=
  min (positive config.speedTestItem.speedTestPageSize speedtestBatchPageSize) (max selectedCount 1)

def mixedConcurrencyCount (config : Config) (selectedCount : Nat) : Nat :=
  min (positive (some config.speedTestItem.mixedConcurrencyCount) 1) (max selectedCount 1)

def dedicatedConcurrencyCount (action : SpeedTestKind) (config : Config) (selectedCount : Nat) :
    Nat :=
  if action = .mixed then mixedConcurrencyCount config selectedCount else 1

def chunksFrom (size : Nat) {α : Type} : Nat → List α → List (List α)
  | 0, _ => []
  | _, [] => []
  | fuel + 1, items => items.take size :: chunksFrom size fuel (items.drop size)

/-- `slice::chunks`. -/
def chunks {α : Type} (size : Nat) (items : List α) : List (List α) :=
  chunksFrom size items.length items

end Preparation

section Runs

def clearWrites (action : SpeedTestKind) (indexId : String) : List Write :=
  match action with
  | .tcpConnect | .latency | .udp =>
    [⟨indexId, .delay 0⟩, ⟨indexId, .message (pendingMessage action)⟩]
  | .download => [⟨indexId, .speed Speed.zero⟩, ⟨indexId, .message (pendingMessage action)⟩]
  | .mixed =>
    [⟨indexId, .delay 0⟩, ⟨indexId, .speed Speed.zero⟩,
      ⟨indexId, .message (pendingMessage action)⟩]

def clearPreviousResults (action : SpeedTestKind) (selected : List ServerTestItem) : Test Unit :=
  writes (selected.flatMap fun item => clearWrites action item.indexId)

def runItems (action : SpeedTestKind) : List ServerTestItem → Test (List SpeedTestResult)
  | [] => .done []
  | item :: items => .check fun cancelled =>
    match cancelled with
    | true => .done []
    | false =>
      (runItem action item).bind fun results =>
        (runItems action items).bind fun rest => .done (results ++ rest)

def runBatches (action : SpeedTestKind) (coreType : CoreType) :
    List (List PreparedSpeedtestItem) → Test (List SpeedTestResult)
  | [] => .done []
  | batch :: batches => .check fun cancelled =>
    match cancelled with
    | true => .done []
    | false =>
      (require (.startCore coreType (batch.map (·.entry))) id).bind fun _ =>
        (runItems action (batch.map (·.item))).bind fun results =>
          (runBatches action coreType batches).bind fun rest => .done (results ++ rest)

def runGroups (action : SpeedTestKind) (config : Config) :
    List (CoreType × List PreparedSpeedtestItem) → Test (List SpeedTestResult)
  | [] => .done []
  | group :: groups => .check fun cancelled =>
    match cancelled with
    | true => .done []
    | false =>
      (runBatches action group.1
        (chunks (speedtestPageSize config group.2.length) group.2)).bind fun results =>
          (runGroups action config groups).bind fun rest => .done (results ++ rest)

def runBatchItems (action : SpeedTestKind) (config : Config) (items : List ServerTestItem) :
    Test (List SpeedTestResult) :=
  (prepareSpeedtestItems items).bind fun prepared =>
    runGroups action config (groupPreparedItems prepared)

def runDedicatedItem (action : SpeedTestKind) (prepared : PreparedSpeedtestItem) :
    Test (List SpeedTestResult) :=
  (require (.startCore prepared.runCoreType [prepared.entry]) id).bind fun _ =>
    runItem action prepared.item

abbrev TestPlan : Type := Plan Write SpeedtestError Answer SpeedTestResult

/-- What is left to do where the results are there already. -/
def noTasks (results : List SpeedTestResult) : TestPlan :=
  { results, tasks := [], limit := 1 }

def runConcurrentDedicatedItems (action : SpeedTestKind) (config : Config)
    (items : List ServerTestItem) : Test TestPlan :=
  .check fun cancelled =>
    match cancelled with
    | true => .done (noTasks [])
    | false =>
      (prepareSpeedtestItems items).bind fun prepared =>
        .done { results := []
                tasks := prepared.map (runDedicatedItem action)
                limit := dedicatedConcurrencyCount action config items.length }

/-- `run_inner`, after the items are selected. -/
def runInner (action : SpeedTestKind) (config : Config) (selected : List ServerTestItem) :
    Test TestPlan :=
  (clearPreviousResults action selected).bind fun _ =>
    match action with
    | .tcpConnect => (runItems action selected).bind fun results => .done (noTasks results)
    | .latency | .udp =>
      (runBatchItems action config selected).bind fun results => .done (noTasks results)
    | .download | .mixed => runConcurrentDedicatedItems action config selected

/-- `run_with_callback`. -/
def runWithCallback (profiles : List ProfileItem) (config : Config) (action : SpeedTestKind)
    (indexIds : List String) : Test TestPlan :=
  match selectTestItems profiles config indexIds with
  | .ok selected => runInner action config selected
  | .error error => .fail error

abbrev TestState : Type := State Write SpeedtestError Answer SpeedTestResult

end Runs

end Speedtest
