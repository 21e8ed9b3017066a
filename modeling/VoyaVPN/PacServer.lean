import VoyaVPN.FileTree
import VoyaVPN.PercentText
import VoyaVPN.SystemProxyManager

/-! The local server of the proxy auto-config file: its starts and stops, and whether it serves what
the config says. -/
namespace PacServer

open FileTree PercentText

section Texts

def loopback : String := "127.0.0.1"
def pacFileName : String := "pac.txt"
def defaultPacTemplate : String :=
  "var proxy = '__PROXY__';\nfunction FindProxyForURL(url, host) \x7b\n" ++
    "  if (isPlainHostName(host) || shExpMatch(host, \x22localhost\x22)) \x7b\n" ++
      "    return \x22DIRECT\x22;\n  \x7d\n  return proxy;\n\x7d\n"

structure PacStartConfig where
  httpPort : Int
  pacPort : Int
  configDir : Place
  customPacPath : Option String

inductive PacError where
  | lockPoisoned
  | invalidPort (port : Int)
  | pacListen (port : Int)
  | pacSetNonblocking
  | pacRead (path : Place) (source : IoError)
  | pacWrite (path : Place) (source : IoError)
  deriving DecidableEq, Repr

structure Faults where
  unreadable : Place → Option IoError := fun _ => none
  refused : Place → Option IoError := fun _ => none
  write : Option WriteFault := none
  bind : Bool := false
  nonblocking : Bool := false
  spawn : Bool := false

/-- The text of a file, which must be UTF-8. -/
def readToString (faults : Faults) (tree : Tree) (place : Place) : Except IoError String :=
  match faults.unreadable place with
  | some error => .error error
  | none =>
    match tree.nodes place with
    | none => .error .notFound
    | some .directory => .error .isADirectory
    | some (.file content) =>
      let chars := decodeUtf8Lossy none content
      if utf8 chars = content then .ok (String.ofList chars) else .error (.other "invalid UTF-8")

def putProxy (httpPort : Int) (text : String) : String :=
  RustText.replace text "__PROXY__" ("PROXY " ++ loopback ++ ":" ++ toString httpPort ++ ";DIRECT;")

def responseHead : List Char :=
  "HTTP/1.0 200 OK\r\n".toList ++ "Content-type:application/x-ns-proxy-autoconfig\r\n".toList ++
    "Connection:close\r\n".toList ++ "Content-Length:".toList

def responseOf (pacText : String) : List Nat :=
  utf8 (responseHead ++ Nat.toDigits 10 (utf8 pacText.toList).length ++
    '\r' :: '\n' :: '\r' :: '\n' :: pacText.toList)

end Texts

section Starts

-- `PathBuf::from`: where the text of a path leads
variable (placeOf : String → Place)

def customFile (tree : Tree) (config : PacStartConfig) : Option Place :=
  ((config.customPacPath.filter fun path => RustText.trim path ≠ "").map placeOf).filter
    fun place => (tree.nodes place).isSome

def loadPacText (faults : Faults) (tree : Tree) (config : PacStartConfig) :
    Except PacError String × Tree :=
  match customFile placeOf tree config with
  | some custom => ((readToString faults tree custom).mapError (.pacRead custom), tree)
  | none =>
    match tree.createDirAll faults.refused config.configDir with
    | (.error error, tree) => (.error (.pacWrite config.configDir error), tree)
    | (.ok (), tree) =>
      let path := config.configDir ++ [pacFileName]
      if (tree.nodes path).isSome then
        ((readToString faults tree path).mapError (.pacRead path), tree)
      else
        match tree.writeFile config.configDir pacFileName (utf8 defaultPacTemplate.toList)
            faults.write with
        | (.error error, tree) => (.error (.pacWrite path error), tree)
        | (.ok (), tree) => ((readToString faults tree path).mapError (.pacRead path), tree)

def pacText (faults : Faults) (tree : Tree) (config : PacStartConfig) :
    Except PacError String × Tree :=
  ((loadPacText placeOf faults tree config).1.map (putProxy config.httpPort),
    (loadPacText placeOf faults tree config).2)

def pacHttpResponse (faults : Faults) (tree : Tree) (config : PacStartConfig) :
    Except PacError (List Nat) × Tree :=
  ((pacText placeOf faults tree config).1.map responseOf, (pacText placeOf faults tree config).2)

structure RunningPacServer where
  httpPort : Int
  pacPort : Int
  content : List Nat

structure State where
  tree : Tree
  poisoned : Bool := false
  server : Option RunningPacServer := none

def toU16Port (port : Int) : Except PacError Nat :=
  if 0 ≤ port ∧ port < 65536 then .ok port.toNat else .error (.invalidPort port)

def needsRestart (config : PacStartConfig) (server : Option RunningPacServer) : Bool :=
  match server with
  | none => true
  | some running => running.httpPort ≠ config.httpPort || running.pacPort ≠ config.pacPort

/-- The start behind the stop of a server: a thread that cannot be made panics with the lock held.
-/
def spawnServer (faults : Faults) (state : State) (config : PacStartConfig) :
    Except PacError Unit × State :=
  let (content, tree) := pacHttpResponse placeOf faults state.tree config
  let state := { state with tree, server := none }
  match content with
  | .error error => (.error error, state)
  | .ok content =>
    match toU16Port config.pacPort with
    | .error error => (.error error, state)
    | .ok _ =>
      if faults.bind then (.error (.pacListen config.pacPort), state)
      else if faults.nonblocking then (.error .pacSetNonblocking, state)
      else if faults.spawn then (.error .lockPoisoned, { state with poisoned := true })
      else
        (.ok (), { state with
          server := some { httpPort := config.httpPort, pacPort := config.pacPort, content } })

def start (faults : Faults) (state : State) (config : PacStartConfig) :
    Except PacError Unit × State :=
  if state.poisoned then (.error .lockPoisoned, state)
  else if needsRestart config state.server then spawnServer placeOf faults state config
  else (.ok (), state)

/-- A lock that is poisoned is left alone. -/
def stop (state : State) : State := if state.poisoned then state else { state with server := none }

end Starts

section Runs

inductive Event where
  | start (config : PacStartConfig) (faults : Faults)
  | stop
  | edit (tree : Tree)

variable (placeOf : String → Place)

def step (state : State) : Event → State
  | .start config faults => (start placeOf faults state config).2
  | .stop => stop state
  | .edit tree => { state with tree }

def run (state : State) (events : List Event) : State := events.foldl (step placeOf) state

def IsEdit (event : Event) : Prop := ∃ tree, event = .edit tree

def initial (tree : Tree) : State := { tree }

/-- Behind a start that succeeds, and until the next start or stop, the server of its port serves
what its config and the files said at that start; behind a stop there is no server. -/
structure ServesCurrent (tree : Tree) (events : List Event) : Prop where
  started : ∀ before config faults edits, events = before ++ .start config faults :: edits →
    (∀ event ∈ edits, IsEdit event) →
      (start placeOf faults (run placeOf (initial tree) before) config).1 = .ok () →
        ∃ running content,
          (pacHttpResponse placeOf faults (run placeOf (initial tree) before).tree config).1 =
              .ok content ∧
            (run placeOf (initial tree) events).server = some running ∧
              running.pacPort = config.pacPort ∧ running.content = content
  stopped : ∀ before edits, events = before ++ .stop :: edits → (∀ event ∈ edits, IsEdit event) →
    (run placeOf (initial tree) events).server = none

/-- A start that finds a server of its ports finds the text that this server was given. -/
def KeepsText (state : State) : Event → Prop
  | .start config faults => ∀ running, state.server = some running →
    running.httpPort = config.httpPort → running.pacPort = config.pacPort →
      ∃ text, (pacText placeOf faults state.tree config).1 = .ok text ∧
        running.content = responseOf text
  | .stop | .edit _ => True

end Runs

section Steps

variable {placeOf : String → Place} {faults : Faults} {state : State} {config : PacStartConfig}
  {events : List Event} {tree : Tree}

theorem start_cases (h : (start placeOf faults state config).1 = .ok ()) :
    state.poisoned = false ∧
      ((needsRestart config state.server = true ∧ ∃ content,
          (pacHttpResponse placeOf faults state.tree config).1 = .ok content ∧
            (start placeOf faults state config).2.server = some
              { httpPort := config.httpPort, pacPort := config.pacPort, content }) ∨
        (needsRestart config state.server = false ∧
          (start placeOf faults state config).2 = state)) := by
  rw [start] at h ⊢
  split at h
  · cases h
  · rename_i hpoisoned
    rw [if_neg hpoisoned]
    refine ⟨Bool.eq_false_iff.mpr hpoisoned, ?_⟩
    split at h
    · rename_i hrestart
      rw [if_pos hrestart]
      refine Or.inl ⟨hrestart, ?_⟩
      rw [spawnServer] at h ⊢
      simp only at h ⊢
      split at h
      · cases h
      · rename_i content hcontent
        simp only [hcontent]
        split at h
        · cases h
        · rename_i port hport
          split at h
          · cases h
          · rename_i hbind
            split at h
            · cases h
            · rename_i hblocking
              split at h
              · cases h
              · rename_i hspawn
                rw [if_neg hbind, if_neg hblocking, if_neg hspawn]
                exact ⟨content, rfl, rfl⟩
    · rename_i hrestart
      rw [if_neg hrestart]
      exact Or.inr ⟨Bool.eq_false_iff.mpr hrestart, rfl⟩

/-- A manager whose lock is poisoned has no server. -/
def PoisonedEmpty (state : State) : Prop := state.poisoned = true → state.server = none

theorem poisonedEmpty_step (h : PoisonedEmpty state) (event : Event) :
    PoisonedEmpty (step placeOf state event) := by
  cases event with
  | start config faults =>
    rw [step, start]
    split
    · exact h
    · rename_i hpoisoned
      split
      · intro hafter
        rw [spawnServer] at hafter ⊢
        simp only at hafter ⊢
        split
        · rfl
        · rename_i content hcontent
          rw [hcontent] at hafter
          simp only at hafter
          split
          · rfl
          · rename_i port hport
            rw [hport] at hafter
            simp only at hafter
            split
            · rfl
            · rename_i hbind
              rw [if_neg hbind] at hafter
              split
              · rfl
              · rename_i hblocking
                rw [if_neg hblocking] at hafter
                split
                · rfl
                · rename_i hspawn
                  rw [if_neg hspawn] at hafter
                  exact absurd hafter hpoisoned
      · exact h
  | stop =>
    rw [step, stop]
    split
    · exact h
    · exact fun _ => rfl
  | edit tree => exact h

theorem run_append (first second : List Event) :
    run placeOf state (first ++ second) = run placeOf (run placeOf state first) second :=
  List.foldl_append

theorem poisonedEmpty_run (h : PoisonedEmpty state) :
    PoisonedEmpty (run placeOf state events) := by
  induction events generalizing state with
  | nil => exact h
  | cons event events ih => exact ih (poisonedEmpty_step h event)

theorem run_edits (h : ∀ event ∈ events, IsEdit event) :
    (run placeOf state events).server = state.server := by
  induction events generalizing state with
  | nil => rfl
  | cons event events ih =>
    obtain ⟨tree, rfl⟩ := h event List.mem_cons_self
    exact ih fun other hother => h other (List.mem_cons_of_mem _ hother)

theorem not_needsRestart {running : RunningPacServer} :
    needsRestart config (some running) = false ↔
      running.httpPort = config.httpPort ∧ running.pacPort = config.pacPort := by
  simp [needsRestart]

end Steps

section Served

variable {placeOf : String → Place} {tree : Tree}

theorem serves_of_keeps {events : List Event}
    (h : ∀ before event after, events = before ++ event :: after →
      KeepsText placeOf (run placeOf (initial tree) before) event) :
    ServesCurrent placeOf tree events := by
  have hempty : ∀ before, PoisonedEmpty (run placeOf (initial tree) before) :=
    fun before => poisonedEmpty_run fun hpoisoned => nomatch hpoisoned
  constructor
  · intro before config faults edits hevents hedits hstart
    have hafter : (run placeOf (initial tree) events).server =
        (start placeOf faults (run placeOf (initial tree) before) config).2.server := by
      rw [hevents, run_append]
      exact run_edits hedits
    obtain ⟨-, ⟨-, content, hcontent, hserver⟩ | ⟨hsame, hstate⟩⟩ := start_cases hstart
    · exact ⟨_, content, hcontent, by rw [hafter, hserver], rfl, rfl⟩
    · cases hserver : (run placeOf (initial tree) before).server with
      | none =>
        rw [hserver] at hsame
        cases hsame
      | some running =>
        rw [hserver] at hsame
        obtain ⟨hhttp, hpac⟩ := not_needsRestart.mp hsame
        obtain ⟨text, htext, hgiven⟩ := h before _ edits hevents running hserver hhttp hpac
        refine ⟨running, responseOf text, ?_, ?_, hpac, hgiven⟩
        · rw [pacHttpResponse, htext]
          rfl
        · rw [hafter, hstate, hserver]
  · intro before edits hevents hedits
    have hafter : (run placeOf (initial tree) events).server =
        (stop (run placeOf (initial tree) before)).server := by
      rw [hevents, run_append]
      exact run_edits hedits
    rw [hafter, stop]
    split
    · rename_i hpoisoned
      exact hempty before hpoisoned
    · rfl

theorem keeps_of_serves {before : List Event} {event : Event}
    (h : ServesCurrent placeOf tree (before ++ [event])) :
    KeepsText placeOf (run placeOf (initial tree) before) event := by
  cases event with
  | start config faults =>
    intro running hserver hhttp hpac
    have hempty : PoisonedEmpty (run placeOf (initial tree) before) :=
      poisonedEmpty_run fun hpoisoned => nomatch hpoisoned
    have hpoisoned : (run placeOf (initial tree) before).poisoned = false := by
      rw [Bool.eq_false_iff]
      intro hpoisoned
      rw [hempty hpoisoned] at hserver
      cases hserver
    have hsame : start placeOf faults (run placeOf (initial tree) before) config =
        (.ok (), run placeOf (initial tree) before) := by
      rw [start, hpoisoned, hserver, not_needsRestart.mpr ⟨hhttp, hpac⟩]
      rfl
    obtain ⟨served, content, hcontent, hserved, -, hgiven⟩ :=
      h.started before config faults [] rfl (by simp) (by rw [hsame])
    have hafter : (run placeOf (initial tree) (before ++ [.start config faults])).server =
        some running := by
      rw [run_append]
      change (start placeOf faults (run placeOf (initial tree) before) config).2.server =
        some running
      rw [hsame, hserver]
    rw [hafter] at hserved
    cases hserved
    rw [pacHttpResponse] at hcontent
    cases htext : (pacText placeOf faults (run placeOf (initial tree) before).tree config).1 with
    | error error =>
      rw [htext] at hcontent
      cases hcontent
    | ok text =>
      rw [htext] at hcontent
      cases hcontent
      exact ⟨text, rfl, hgiven⟩
  | stop => trivial
  | edit tree => trivial

/-- The served response is current throughout a run exactly where every start that finds a server of
its ports finds the text that this server was given. -/
theorem serves_current_iff (placeOf : String → Place) (tree : Tree) (events : List Event) :
    (∀ before after, events = before ++ after → ServesCurrent placeOf tree before) ↔
      ∀ before event after, events = before ++ event :: after →
        KeepsText placeOf (run placeOf (initial tree) before) event := by
  constructor
  · intro h before event after hevents
    exact keeps_of_serves (h (before ++ [event]) after (by rw [hevents]; simp))
  · intro h before after hevents
    apply serves_of_keeps
    intro first event second hbefore
    exact h first event (second ++ after) (by rw [hevents, hbefore]; simp)

def customFiles : Tree :=
  { nodes := fun place =>
      if place = [] then some .directory
      else if place = ["a.pac"] then some (.file [0x31])
      else if place = ["b.pac"] then some (.file [0x32])
      else none
    root := rfl
    closed := by
      intro place name hne
      by_cases hplace : place = []
      · rw [if_pos hplace]
      · exfalso
        apply hne
        have hlength : 0 < place.length := List.length_pos_iff.mpr hplace
        have hnot : ∀ file : String, place ++ [name] ≠ [file] := by
          intro file heq
          have hlong := congrArg List.length heq
          rw [List.length_append, List.length_singleton, List.length_singleton] at hlong
          omega
        rw [if_neg (by simp), if_neg (hnot _), if_neg (hnot _)] }

def customConfig (path : String) : PacStartConfig :=
  { httpPort := 10809, pacPort := 10811, configDir := [], customPacPath := some path }

def rootPlace (path : String) : Place := [path]

def customRun : List Event := [.start (customConfig "a.pac") {}]

theorem customRun_served :
    ((run rootPlace (initial customFiles)
        (customRun ++ [.start (customConfig "b.pac") {}])).server.map (·.content)).bind
          List.getLast? =
          some 0x31 ∧
      ((pacHttpResponse rootPlace {} (run rootPlace (initial customFiles) customRun).tree
        (customConfig "b.pac")).1.toOption).bind List.getLast? = some 0x32 ∧
      (start rootPlace {} (run rootPlace (initial customFiles) customRun)
        (customConfig "b.pac")).1 = .ok () := by
  decide +kernel

/-- Another custom file alone does not restart the server. -/
theorem custom_change :
    ¬ ∀ before after, customRun ++ [.start (customConfig "b.pac") {}] = before ++ after →
      ServesCurrent rootPlace customFiles before := by
  intro h
  obtain ⟨hserved, hmeant, hstart⟩ := customRun_served
  obtain ⟨running, content, hcontent, hrunning, -, hgiven⟩ :=
    (h _ [] (List.append_nil _).symm).started customRun (customConfig "b.pac") {} [] rfl
      (fun _ hevent => absurd hevent List.not_mem_nil) hstart
  rw [hcontent] at hmeant
  rw [hrunning, Option.map_some, Option.bind_some, hgiven] at hserved
  have hlast : content.getLast? = some 0x32 := hmeant
  rw [hlast] at hserved
  revert hserved
  decide

end Served

section Manager

open ActionRules SystemProxyManager

variable {placeOf : String → Place} {faults : Faults} {state : State} {config : PacStartConfig}

/-- What the system proxy manager knows of the server. -/
def serverPorts (state : State) : Option (Int × Int) :=
  state.server.map fun running => (running.httpPort, running.pacPort)

theorem needsRestart_iff :
    needsRestart config state.server = true ↔
      serverPorts state ≠ some (config.httpPort, config.pacPort) := by
  cases hserver : state.server with
  | none => simp [needsRestart, serverPorts, hserver]
  | some running =>
    simp only [needsRestart, serverPorts, hserver, Bool.or_eq_true, decide_eq_true_eq,
      Option.map_some, ne_eq, Option.some.injEq, Prod.mk.injEq]
    exact not_and_or.symm

theorem spawnServer_ports :
    serverPorts (spawnServer placeOf faults state config).2 =
      match (spawnServer placeOf faults state config).1 with
      | .ok () => some (config.httpPort, config.pacPort)
      | .error _ => none := by
  rw [spawnServer]
  simp only
  split
  · rfl
  · split
    · rfl
    · split_ifs <;> rfl

/-- The start that the manager of the system proxy makes is this one, as far as it knows the server:
a start that fails is a fault it meets. -/
theorem pacStart_follows (wrap : PacError → SystemProxy.SystemProxyError)
    (hempty : PoisonedEmpty state) (world : World) (hpac : world.pac = serverPorts state) :
    ∃ fault,
      (outcome (pacStart config.httpPort config.pacPort) { world with
          faults := fault :: world.faults }).1 =
        ((start placeOf faults state config).1.mapError fun error => .failed (wrap error)).map
          (fun _ => ⟨⟩) ∧
      (outcome (pacStart config.httpPort config.pacPort) { world with
          faults := fault :: world.faults }).2.pac =
        serverPorts (start placeOf faults state config).2 := by
  by_cases hports : serverPorts state = some (config.httpPort, config.pacPort)
  · have hpoisoned : state.poisoned = false := by
      rw [Bool.eq_false_iff]
      intro hpoisoned
      rw [serverPorts, hempty hpoisoned] at hports
      cases hports
    have hsame : start placeOf faults state config = (.ok (), state) := by
      rw [start, hpoisoned, if_neg (by decide),
        if_neg (by rw [needsRestart_iff]; exact not_not_intro hports)]
    refine ⟨none, ?_⟩
    rw [hsame, pacStart, outcome_bind, outcome_get]
    simp only [hpac, hports, if_true]
    exact ⟨rfl, rfl⟩
  · have hrestart := needsRestart_iff.mpr hports
    have hserves : outcome (pacStart config.httpPort config.pacPort) { world with
        faults := none :: world.faults } =
          (.ok ⟨⟩, { world with pac := some (config.httpPort, config.pacPort) }) := by
      rw [pacStart, outcome_bind, outcome_get]
      simp only [hpac, if_neg hports]
      rfl
    have hfails : ∀ error, outcome (pacStart config.httpPort config.pacPort) { world with
        faults := some (.pac error) :: world.faults } =
          (.error (.failed error), { world with pac := none }) := by
      intro error
      rw [pacStart, outcome_bind, outcome_get]
      simp only [hpac, if_neg hports]
      rfl
    cases hresult : (start placeOf faults state config).1 with
    | ok done =>
      refine ⟨none, ?_⟩
      rw [hserves]
      obtain ⟨-, ⟨-, content, -, hserver⟩ | ⟨hkept, -⟩⟩ := start_cases hresult
      · exact ⟨rfl, by rw [serverPorts, hserver]; rfl⟩
      · rw [hrestart] at hkept
        cases hkept
    | error error =>
      refine ⟨some (.pac (wrap error)), ?_⟩
      rw [hfails]
      refine ⟨rfl, ?_⟩
      change none = _
      rw [start, hrestart] at hresult ⊢
      split
      · rename_i hpoisoned
        rw [serverPorts, hempty hpoisoned]
        rfl
      · rename_i hpoisoned
        rw [if_neg hpoisoned, if_pos rfl] at hresult
        rw [if_pos rfl, spawnServer_ports, hresult]

theorem pacStop_follows (hempty : PoisonedEmpty state) (world : World) :
    (outcome pacStop world).2.pac = serverPorts (stop state) := by
  rw [stop]
  split
  · rename_i hpoisoned
    rw [serverPorts, hempty hpoisoned]
    rfl
  · rfl

end Manager

end PacServer
