import VoyaVPN.InputRuns
import VoyaVPN.SupervisorSteps
import VoyaVPN.RuntimeService
import VoyaVPN.StaleExits

/-! The two config files are shared by all sessions: a crash restart of the supervisor reads
what the last call has left in them. They are those of the running session as long as calls do
not overlap and a running session is only started again with the texts it already has. -/
namespace RuntimeFiles

open Supervisor SupervisorSteps RuntimeService

variable {Context : Type}

def Connected (actor : SupervisorActor) : Prop :=
  actor.running.snapshot.state = .connected

/-- Whenever the supervisor reports a session, the files on disk are the ones generated for it
and it reports the profile they were generated for. -/
def FilesMatch (system : RuntimeSystem Context) : Prop :=
  Connected system.supervisor → ∃ session, system.session = some session ∧
    system.supervisor.running.activeProfileId = some session.profileId ∧
    system.files.main = some session.main ∧
    ∀ text, session.pre = some text → system.files.pre = some text

/-- The call would write the texts the session was generated with. -/
def SameTexts (deps : RuntimeDeps Context) (session : SessionConfig)
    (contexts : RuntimeContexts Context) : Prop :=
  ∃ renewed, sessionConfig deps contexts = some renewed ∧ renewed.main = session.main ∧
    renewed.pre = session.pre

/-- While a session is up, a write of the call succeeds, and so does the stop before its
start. -/
def Answered (deps : RuntimeDeps Context) (supervisor : SupervisorActor) (answers : IoAnswers) :
    RuntimeCall Context → Prop
  | .writeMain _ => answers.write = .ok ()
  | .writePre contexts _ => contexts.pre.isSome = true → answers.write = .ok ()
  | .startCore .. => StopsCleanly deps.supervisor supervisor.running supervisor.calls
  | _ => True

/-- Calls do not overlap, and a connect finds no session or one with the same texts. -/
def OneAtATime (deps : RuntimeDeps Context) (system : RuntimeSystem Context) :
    RuntimeInput Context → Prop
  | .connect (.ok contexts) => system.calls = [] ∧ (Connected system.supervisor →
      ∃ session, system.session = some session ∧ SameTexts deps session contexts)
  | .disconnect => system.calls = []
  | .advance index answers => ∀ call, system.calls[index]? = some call →
      Connected system.supervisor → Answered deps system.supervisor answers call
  | .connect (.error _) | .processExited .. | .nativeTunExited .. => True

def Holds (deps : RuntimeDeps Context) (contents : Option String) (context : Context) : Prop :=
  ∃ text, deps.generateSingboxConfigJson context = .ok text ∧ contents = some text

/-- A session that is up while a connect is under way has the texts of that connect. -/
def Renews (deps : RuntimeDeps Context) (system : RuntimeSystem Context)
    (contexts : RuntimeContexts Context) : Prop :=
  Connected system.supervisor →
    ∃ session, system.session = some session ∧ SameTexts deps session contexts

/-- What holds while the one call in flight is at its next operation. -/
def CallInvariant (deps : RuntimeDeps Context) (system : RuntimeSystem Context) :
    RuntimeCall Context → Prop
  | .writeMain contexts => Renews deps system contexts
  | .specMain contexts => Renews deps system contexts ∧ Holds deps system.files.main contexts.main
  | .writePre contexts _ => Renews deps system contexts ∧
      Holds deps system.files.main contexts.main
  | .specPre contexts pre _ => Renews deps system contexts ∧
      Holds deps system.files.main contexts.main ∧ contexts.pre = some pre ∧
        Holds deps system.files.pre pre
  | .startCore contexts request => Renews deps system contexts ∧
      Holds deps system.files.main contexts.main ∧
        (∀ pre, contexts.pre = some pre → Holds deps system.files.pre pre) ∧
          request.activeProfileId = some contexts.activeProfileId
  | .stopCore => True
  | .removeMainAfter _ | .removePreAfter _ | .removeMain _ | .removePre _ =>
      system.supervisor.running = {}

def CallsInvariant (deps : RuntimeDeps Context) (system : RuntimeSystem Context) : Prop :=
  system.calls = [] ∨ ∃ call, system.calls = [call] ∧ CallInvariant deps system call

/-- The supervisor has no session, or one that runs for a request. -/
def SessionOf (running : RunningCore) : Prop :=
  running = {} ∨ ∃ request, Serves request running

structure FilesInvariant (deps : RuntimeDeps Context) (system : RuntimeSystem Context) : Prop where
  session : SessionOf system.supervisor.running
  filesMatch : FilesMatch system
  calls : CallsInvariant deps system

theorem not_connected_of_empty {actor : SupervisorActor} (h : actor.running = {}) :
    ¬ Connected actor := by
  intro hconnected
  rw [Connected, h] at hconnected
  cases hconnected

theorem filesMatch_of_empty {system : RuntimeSystem Context}
    (h : system.supervisor.running = {}) : FilesMatch system := by
  intro hconnected
  exact absurd hconnected (not_connected_of_empty h)

section Exits

/-- What a reported exit may do to the supervisor under the same files and calls. -/
theorem filesMatch_exit {system : RuntimeSystem Context} (h : FilesMatch system)
    (hsession : SessionOf system.supervisor.running) {supervisor : SupervisorActor}
    (houtcome : ExitOutcome system.supervisor.running supervisor.running) :
    FilesMatch { system with supervisor } := by
  rcases houtcome with hsame | hempty | ⟨hrunning, request, hlast, hserves⟩
  · intro hconnected
    have hbefore : Connected system.supervisor := by
      rw [Connected, ← hsame]
      exact hconnected
    obtain ⟨session, hsome, hprofile, hmain, hpre⟩ := h hbefore
    refine ⟨session, hsome, ?_, hmain, hpre⟩
    rw [← hprofile, hsame]
  · exact filesMatch_of_empty hempty
  · intro _
    rcases hsession with hempty | ⟨before, hbefore⟩
    · exact absurd hempty hrunning
    · obtain ⟨session, hsome, hprofile, hmain, hpre⟩ := h hbefore.connected
      refine ⟨session, hsome, ?_, hmain, hpre⟩
      have hrequest : before = request := by
        rw [hbefore.lastRequest] at hlast
        exact Option.some.inj hlast
      rw [← hprofile, hserves.activeProfileId, hbefore.activeProfileId, hrequest]

theorem sessionOf_exit {before after : RunningCore} (h : SessionOf before)
    (houtcome : ExitOutcome before after) : SessionOf after := by
  rcases houtcome with hsame | hempty | ⟨-, request, -, hserves⟩
  · rw [hsame]
    exact h
  · exact .inl hempty
  · exact .inr ⟨request, hserves⟩

theorem empty_exit {before after : RunningCore} (h : before = {})
    (houtcome : ExitOutcome before after) : after = {} := by
  rcases houtcome with hsame | hempty | ⟨hrunning, -⟩
  · rw [hsame, h]
  · exact hempty
  · exact absurd h hrunning

theorem renews_exit {deps : RuntimeDeps Context} {system : RuntimeSystem Context}
    {contexts : RuntimeContexts Context} (h : Renews deps system contexts)
    (hsession : SessionOf system.supervisor.running) {supervisor : SupervisorActor}
    (houtcome : ExitOutcome system.supervisor.running supervisor.running) :
    Renews deps { system with supervisor } contexts := by
  intro hconnected
  refine h ?_
  rcases hsession with hempty | ⟨before, hbefore⟩
  · exact absurd hconnected (not_connected_of_empty (empty_exit hempty houtcome))
  · exact hbefore.connected

theorem callInvariant_exit {deps : RuntimeDeps Context} {system : RuntimeSystem Context}
    {call : RuntimeCall Context} (h : CallInvariant deps system call)
    (hsession : SessionOf system.supervisor.running) {supervisor : SupervisorActor}
    (houtcome : ExitOutcome system.supervisor.running supervisor.running) :
    CallInvariant deps { system with supervisor } call := by
  cases call with
  | writeMain contexts => exact renews_exit h hsession houtcome
  | specMain contexts => exact ⟨renews_exit h.1 hsession houtcome, h.2⟩
  | writePre contexts main => exact ⟨renews_exit h.1 hsession houtcome, h.2⟩
  | specPre contexts pre main => exact ⟨renews_exit h.1 hsession houtcome, h.2⟩
  | startCore contexts request => exact ⟨renews_exit h.1 hsession houtcome, h.2⟩
  | stopCore => trivial
  | removeMainAfter error => exact empty_exit h houtcome
  | removePreAfter error => exact empty_exit h houtcome
  | removeMain snapshot => exact empty_exit h houtcome
  | removePre snapshot => exact empty_exit h houtcome

theorem filesInvariant_exit {deps : RuntimeDeps Context} {system : RuntimeSystem Context}
    (h : FilesInvariant deps system) {supervisor : SupervisorActor}
    (houtcome : ExitOutcome system.supervisor.running supervisor.running) :
    FilesInvariant deps { system with supervisor } := by
  refine ⟨sessionOf_exit h.session houtcome, filesMatch_exit h.filesMatch h.session houtcome, ?_⟩
  rcases h.calls with hnone | ⟨call, hcall, hinv⟩
  · exact .inl hnone
  · exact .inr ⟨call, hcall, callInvariant_exit hinv h.session houtcome⟩

end Exits

section Operations

variable (deps : RuntimeDeps Context)

theorem sessionConfig_cases {contexts : RuntimeContexts Context} {session : SessionConfig}
    (h : sessionConfig deps contexts = some session) :
    session.profileId = contexts.activeProfileId ∧
      deps.generateSingboxConfigJson contexts.main = .ok session.main ∧
        (contexts.pre = none ∧ session.pre = none ∨ ∃ pre text, contexts.pre = some pre ∧
          deps.generateSingboxConfigJson pre = .ok text ∧ session.pre = some text) := by
  unfold sessionConfig at h
  split at h
  · cases h
  · rename_i main hmain
    split at h
    · rename_i hpre
      cases h
      exact ⟨rfl, hmain, .inl ⟨hpre, rfl⟩⟩
    · rename_i pre hpre
      split at h
      · cases h
      · rename_i text htext
        cases h
        exact ⟨rfl, hmain, .inr ⟨pre, text, hpre, htext, rfl⟩⟩

/-- Files that hold what the contexts generate are those of the session made for them. -/
theorem sessionConfig_of_holds {contexts : RuntimeContexts Context} {files : ConfigFiles}
    (hmain : Holds deps files.main contexts.main)
    (hpre : ∀ pre, contexts.pre = some pre → Holds deps files.pre pre) :
    ∃ session, sessionConfig deps contexts = some session ∧
      session.profileId = contexts.activeProfileId ∧ files.main = some session.main ∧
        ∀ text, session.pre = some text → files.pre = some text := by
  obtain ⟨main, hmain, hmainFile⟩ := hmain
  cases hcontext : contexts.pre with
  | none =>
    refine ⟨⟨contexts.activeProfileId, main, none⟩, ?_, rfl, hmainFile, ?_⟩
    · simp only [sessionConfig, hmain, hcontext]
    · intro text htext
      cases htext
  | some pre =>
    obtain ⟨text, htext, hfile⟩ := hpre pre hcontext
    refine ⟨⟨contexts.activeProfileId, main, some text⟩, ?_, rfl, hmainFile, ?_⟩
    · simp only [sessionConfig, hmain, hcontext, htext]
    · intro other hother
      rw [hfile, ← hother]

/-- A write does nothing, puts the generated text into the file, or fails half way. -/
theorem writeRuntimeConfig_cases (file : ConfigFile) (context : Context) (answers : IoAnswers)
    (files : ConfigFiles) :
    (∃ error, writeRuntimeConfig deps file context answers files = (.error error, files)) ∨
      (∃ text, deps.generateSingboxConfigJson context = .ok text ∧
        writeRuntimeConfig deps file context answers files =
          (.ok (), files.set file (some text))) ∨
      ∃ error left, answers.write ≠ .ok () ∧
        writeRuntimeConfig deps file context answers files =
          (.error error, files.set file left) := by
  unfold writeRuntimeConfig
  split
  · exact .inl ⟨_, rfl⟩
  · rename_i text htext
    split
    · exact .inr (.inl ⟨text, htext, rfl⟩)
    · rename_i hwrite
      refine .inr (.inr ⟨_, _, ?_, rfl⟩)
      rw [hwrite]
      intro h
      cases h

variable {deps}

theorem filesMatch_set_main {system : RuntimeSystem Context} (h : FilesMatch system)
    {contexts : RuntimeContexts Context} (hrenews : Renews deps system contexts) {text : String}
    (htext : deps.generateSingboxConfigJson contexts.main = .ok text)
    (calls : List (RuntimeCall Context)) :
    FilesMatch { system with files := system.files.set .main (some text), calls } := by
  intro hconnected
  obtain ⟨session, hsome, hprofile, -, hpre⟩ := h hconnected
  obtain ⟨other, hother, renewed, hrenewed, hmain, -⟩ := hrenews hconnected
  have hsame : other = session := Option.some.inj (hother.symm.trans hsome)
  obtain ⟨-, hgenerated, -⟩ := sessionConfig_cases deps hrenewed
  have hmainText : text = renewed.main := by
    rw [htext] at hgenerated
    exact Except.ok.inj hgenerated
  refine ⟨session, hsome, hprofile, ?_, hpre⟩
  rw [hmainText, hmain, hsame]
  rfl

theorem filesMatch_set_pre {system : RuntimeSystem Context} (h : FilesMatch system)
    {contexts : RuntimeContexts Context} (hrenews : Renews deps system contexts)
    {contents : Option String} (hcontents : (contexts.pre = none) ∨
      ∃ pre text, contexts.pre = some pre ∧ deps.generateSingboxConfigJson pre = .ok text ∧
        contents = some text) (calls : List (RuntimeCall Context)) :
    FilesMatch { system with files := system.files.set .pre contents, calls } := by
  intro hconnected
  obtain ⟨session, hsome, hprofile, hmain, -⟩ := h hconnected
  obtain ⟨other, hother, renewed, hrenewed, -, hpre⟩ := hrenews hconnected
  have hsame : other = session := Option.some.inj (hother.symm.trans hsome)
  rw [hsame] at hpre
  refine ⟨session, hsome, hprofile, hmain, ?_⟩
  intro text htext
  obtain ⟨-, -, hgenerated⟩ := sessionConfig_cases deps hrenewed
  rw [hpre, htext] at hgenerated
  rcases hgenerated with ⟨-, hnone⟩ | ⟨pre, generated, hcontext, hgenerated, hpreText⟩
  · cases hnone
  · rcases hcontents with hnone | ⟨other, written, hother, hwritten, hcontents⟩
    · rw [hnone] at hcontext
      cases hcontext
    · have hpreSame : other = pre := Option.some.inj (hother.symm.trans hcontext)
      rw [hpreSame, hgenerated] at hwritten
      cases hwritten
      cases hpreText
      exact hcontents

/-- The system after an operation of its call, with the calls that are left. -/
def afterCall (deps : RuntimeDeps Context) (system : RuntimeSystem Context) (answers : IoAnswers)
    (call : RuntimeCall Context) (calls : List (RuntimeCall Context)) : RuntimeSystem Context :=
  let after := advance deps answers system.supervisor system.files call
  { supervisor := after.1
    files := after.2.1
    calls
    session := nextSession deps call after.2.2 system.session }

structure CallKept (deps : RuntimeDeps Context) (system : RuntimeSystem Context)
    (answers : IoAnswers) (call : RuntimeCall Context) (calls : List (RuntimeCall Context)) :
    Prop where
  session : SessionOf (afterCall deps system answers call calls).supervisor.running
  filesMatch : FilesMatch (afterCall deps system answers call calls)
  next : ∀ next, (advance deps answers system.supervisor system.files call).2.2 = .next next →
    CallInvariant deps (afterCall deps system answers call calls) next

variable {system : RuntimeSystem Context} {answers : IoAnswers}
  (calls : List (RuntimeCall Context))

theorem writeMain_kept {contexts : RuntimeContexts Context}
    (h : FilesInvariant deps system) (hcall : CallInvariant deps system (.writeMain contexts))
    (hanswered : Connected system.supervisor → answers.write = .ok ()) :
    CallKept deps system answers (.writeMain contexts) calls := by
  rcases writeRuntimeConfig_cases deps .main contexts.main answers system.files with
    ⟨error, hwrite⟩ | ⟨text, htext, hwrite⟩ | ⟨error, left, hfailed, hwrite⟩
  · refine ⟨h.session, ?_, ?_⟩
    · simp only [afterCall, advance, hwrite]
      exact h.filesMatch
    · intro next hnext
      simp only [advance, hwrite, CallProgress.proceed] at hnext
      cases hnext
  · refine ⟨h.session, ?_, ?_⟩
    · simp only [afterCall, advance, hwrite]
      exact filesMatch_set_main h.filesMatch hcall htext calls
    · intro next hnext
      simp only [advance, hwrite, CallProgress.proceed] at hnext
      cases hnext
      simp only [afterCall, advance, hwrite]
      exact ⟨hcall, text, htext, rfl⟩
  · refine ⟨h.session, ?_, ?_⟩
    · intro hconnected
      exact absurd (hanswered hconnected) hfailed
    · intro next hnext
      simp only [advance, hwrite, CallProgress.proceed] at hnext
      cases hnext

theorem specMain_kept {contexts : RuntimeContexts Context}
    (h : FilesInvariant deps system) (hcall : CallInvariant deps system (.specMain contexts)) :
    CallKept deps system answers (.specMain contexts) calls := by
  refine ⟨h.session, h.filesMatch, ?_⟩
  intro next hnext
  cases hspec : processSpec deps contexts.main .main answers with
  | error error =>
    simp only [advance, hspec, CallProgress.proceed] at hnext
    cases hnext
  | ok main =>
    simp only [advance, hspec, CallProgress.proceed] at hnext
    cases hnext
    exact hcall

theorem specPre_kept {contexts : RuntimeContexts Context} {pre : Context} {main : CoreProcessSpec}
    (h : FilesInvariant deps system)
    (hcall : CallInvariant deps system (.specPre contexts pre main)) :
    CallKept deps system answers (.specPre contexts pre main) calls := by
  obtain ⟨hrenews, hmain, hpre, hholds⟩ := hcall
  refine ⟨h.session, h.filesMatch, ?_⟩
  intro next hnext
  cases hspec : processSpec deps pre .pre answers with
  | error error =>
    simp only [advance, hspec, CallProgress.proceed] at hnext
    cases hnext
  | ok preSpec =>
    simp only [advance, hspec, CallProgress.proceed] at hnext
    cases hnext
    refine ⟨hrenews, hmain, ?_, rfl⟩
    intro other hother
    have hsame : other = pre := Option.some.inj (hother.symm.trans hpre)
    rw [hsame]
    exact hholds

theorem writePre_kept {contexts : RuntimeContexts Context} {main : CoreProcessSpec}
    (h : FilesInvariant deps system) (hcall : CallInvariant deps system (.writePre contexts main))
    (hanswered : Connected system.supervisor → contexts.pre.isSome = true →
      answers.write = .ok ()) :
    CallKept deps system answers (.writePre contexts main) calls := by
  obtain ⟨hrenews, hmain⟩ := hcall
  cases hpre : contexts.pre with
  | none =>
    refine ⟨?_, ?_, ?_⟩
    · simp only [afterCall, advance, hpre]
      exact h.session
    · simp only [afterCall, advance, hpre, cleanupConfigFile]
      split
      · exact filesMatch_set_pre h.filesMatch hrenews (.inl hpre) calls
      · exact h.filesMatch
    · intro next hnext
      simp only [afterCall, advance, hpre, cleanupConfigFile] at hnext ⊢
      split at hnext
      · simp only [CallProgress.proceed] at hnext
        cases hnext
        refine ⟨hrenews, hmain, ?_, rfl⟩
        intro pre hsome
        rw [hpre] at hsome
        cases hsome
      · simp only [CallProgress.proceed] at hnext
        cases hnext
  | some pre =>
    rcases writeRuntimeConfig_cases deps .pre pre answers system.files with
      ⟨error, hwrite⟩ | ⟨text, htext, hwrite⟩ | ⟨error, left, hfailed, hwrite⟩
    · refine ⟨?_, ?_, ?_⟩
      · simp only [afterCall, advance, hpre]
        exact h.session
      · simp only [afterCall, advance, hpre, hwrite]
        exact h.filesMatch
      · intro next hnext
        simp only [advance, hpre, hwrite, CallProgress.proceed] at hnext
        cases hnext
    · refine ⟨?_, ?_, ?_⟩
      · simp only [afterCall, advance, hpre]
        exact h.session
      · simp only [afterCall, advance, hpre, hwrite]
        exact filesMatch_set_pre h.filesMatch hrenews (.inr ⟨pre, text, hpre, htext, rfl⟩) calls
      · intro next hnext
        simp only [advance, hpre, hwrite, CallProgress.proceed] at hnext
        cases hnext
        simp only [afterCall, advance, hpre, hwrite]
        exact ⟨hrenews, hmain, hpre, text, htext, rfl⟩
    · refine ⟨?_, ?_, ?_⟩
      · simp only [afterCall, advance, hpre]
        exact h.session
      · simp only [afterCall, advance, hpre, hwrite]
        intro hconnected
        exact absurd (hanswered hconnected (by rw [hpre]; rfl)) hfailed
      · intro next hnext
        simp only [advance, hpre, hwrite, CallProgress.proceed] at hnext
        cases hnext

/-- A start that succeeds runs with the files its call has written; one that fails has done
away with the session before it. -/
theorem startCore_kept {contexts : RuntimeContexts Context} {request : SupervisorStartRequest}
    (h : FilesInvariant deps system)
    (hcall : CallInvariant deps system (.startCore contexts request))
    (hanswered : Connected system.supervisor →
      StopsCleanly deps.supervisor system.supervisor.running system.supervisor.calls) :
    CallKept deps system answers (.startCore contexts request) calls := by
  obtain ⟨-, hmain, hpre, hprofile⟩ := hcall
  have hstops : StopsCleanly deps.supervisor system.supervisor.running system.supervisor.calls := by
    rcases h.session with hempty | ⟨before, hbefore⟩
    · rw [hempty]
      exact stopsCleanly_empty deps.supervisor _
    · exact hanswered hbefore.connected
  rcases start_cases deps.supervisor request system.supervisor with
    ⟨hnot, -⟩ | ⟨-, ⟨error, herror, hempty⟩ | ⟨snapshot, hsnapshot, hserves⟩⟩
  · exact absurd hstops hnot
  · refine ⟨.inl hempty, filesMatch_of_empty hempty, ?_⟩
    intro next hnext
    simp only [advance, herror] at hnext
    cases hnext
    exact hempty
  · refine ⟨.inr ⟨request, hserves⟩, ?_, ?_⟩
    · intro _
      obtain ⟨session, hsession, hsessionProfile, hmainFile, hpreFile⟩ :=
        sessionConfig_of_holds deps hmain hpre
      simp only [afterCall, advance, hsnapshot, nextSession]
      refine ⟨session, hsession, ?_, hmainFile, hpreFile⟩
      rw [hserves.activeProfileId, hprofile, hsessionProfile]
    · intro next hnext
      simp only [advance, hsnapshot] at hnext
      cases hnext

theorem stopCore_kept (h : FilesInvariant deps system) :
    CallKept deps system answers .stopCore calls := by
  rcases stop_eq deps.supervisor system.supervisor with
    ⟨after, -, -, hstop⟩ | ⟨error, after, -, -, hstop⟩
  · refine ⟨?_, ?_, ?_⟩
    · simp only [afterCall, advance, hstop]
      exact .inl rfl
    · simp only [afterCall, advance, hstop]
      exact filesMatch_of_empty rfl
    · intro next hnext
      simp only [advance, hstop] at hnext
      cases hnext
      simp only [afterCall, advance, hstop]
      rfl
  · refine ⟨?_, ?_, ?_⟩
    · simp only [afterCall, advance, hstop]
      exact h.session
    · simp only [afterCall, advance, hstop, nextSession]
      exact h.filesMatch
    · intro next hnext
      simp only [advance, hstop] at hnext
      cases hnext

theorem remove_kept {call : RuntimeCall Context} (hempty : system.supervisor.running = {})
    (hsame : (advance deps answers system.supervisor system.files call).1 = system.supervisor)
    (hnext : ∀ next, (advance deps answers system.supervisor system.files call).2.2 = .next next →
      (∃ error, next = .removePreAfter error) ∨ ∃ snapshot, next = .removePre snapshot) :
    CallKept deps system answers call calls := by
  have hafter : (afterCall deps system answers call calls).supervisor.running = {} := by
    simp only [afterCall, hsame, hempty]
  refine ⟨.inl hafter, filesMatch_of_empty hafter, ?_⟩
  intro next h
  rcases hnext next h with ⟨error, rfl⟩ | ⟨snapshot, rfl⟩
  · exact hafter
  · exact hafter

theorem call_kept {call : RuntimeCall Context} (h : FilesInvariant deps system)
    (hcall : CallInvariant deps system call)
    (hanswered : Connected system.supervisor → Answered deps system.supervisor answers call) :
    CallKept deps system answers call calls := by
  cases call with
  | writeMain contexts => exact writeMain_kept calls h hcall hanswered
  | specMain contexts => exact specMain_kept calls h hcall
  | writePre contexts main => exact writePre_kept calls h hcall hanswered
  | specPre contexts pre main => exact specPre_kept calls h hcall
  | startCore contexts request => exact startCore_kept calls h hcall hanswered
  | stopCore => exact stopCore_kept calls h
  | removeMainAfter error =>
    refine remove_kept calls hcall rfl ?_
    intro next hnext
    cases hnext
    exact .inl ⟨error, rfl⟩
  | removePreAfter error =>
    refine remove_kept calls hcall rfl ?_
    intro next hnext
    cases hnext
  | removeMain snapshot =>
    refine remove_kept calls hcall rfl ?_
    intro next hnext
    simp only [advance, cleanupConfigFile, CallProgress.proceed] at hnext
    split at hnext
    · cases hnext
      exact .inr ⟨snapshot, rfl⟩
    · cases hnext
  | removePre snapshot =>
    refine remove_kept calls hcall rfl ?_
    intro next hnext
    cases hnext

end Operations

theorem step_keeps (deps : RuntimeDeps Context) (system : RuntimeSystem Context)
    (input : RuntimeInput Context) (h : FilesInvariant deps system)
    (hone : OneAtATime deps system input) : FilesInvariant deps (step deps system input) := by
  cases input with
  | connect contexts =>
    cases contexts with
    | error error => exact h
    | ok contexts =>
      obtain ⟨hnone, hrenews⟩ := hone
      refine ⟨h.session, h.filesMatch, .inr ⟨.writeMain contexts, ?_, hrenews⟩⟩
      simp only [step, hnone, List.nil_append]
  | disconnect =>
    refine ⟨h.session, h.filesMatch, .inr ⟨.stopCore, ?_, trivial⟩⟩
    simp only [step]
    rw [show system.calls = [] from hone, List.nil_append]
  | advance index answers =>
    simp only [step]
    split
    · exact h
    · rename_i call hindex
      rcases h.calls with hnone | ⟨only, honly, hcall⟩
      · rw [hnone] at hindex
        cases hindex
      · have hfirst : index = 0 ∧ only = call := by
          rw [honly, List.getElem?_singleton] at hindex
          split at hindex
          · exact ⟨by assumption, Option.some.inj hindex⟩
          · cases hindex
        obtain ⟨rfl, rfl⟩ := hfirst
        have hanswered := hone only hindex
        split
        · rename_i next hnext
          obtain ⟨hsession, hfiles, hkept⟩ := call_kept ([only].set 0 next) h hcall hanswered
          rw [honly]
          exact ⟨hsession, hfiles, .inr ⟨next, rfl, hkept next hnext⟩⟩
        · obtain ⟨hsession, hfiles, -⟩ := call_kept ([only].eraseIdx 0) h hcall hanswered
          rw [honly]
          exact ⟨hsession, hfiles, .inl rfl⟩
  | processExited processId exitCode =>
    exact filesInvariant_exit h (processExited_outcome deps.supervisor processId system.supervisor)
  | nativeTunExited generation message =>
    exact filesInvariant_exit h
      (nativeTunExited_outcome deps.supervisor generation message system.supervisor)

/-- In every run whose calls come one at a time and start a running session only with the texts
it has, the files on disk are those of the session the supervisor reports. -/
theorem runtime_files_match (deps : RuntimeDeps Context) (inputs : List (RuntimeInput Context))
    (h : InputRuns.Meets (step deps) (OneAtATime deps) {} inputs) :
    FilesMatch (inputs.foldl (step deps) {}) := by
  have hinitial : FilesInvariant deps {} := by
    refine ⟨.inl rfl, ?_, .inl rfl⟩
    exact filesMatch_of_empty rfl
  have hrun : FilesInvariant deps (inputs.foldl (step deps) {}) :=
    InputRuns.invariant_of_meets (step deps) (step_keeps deps) hinitial h
  exact hrun.filesMatch

/-- Linux, where a context is its own config text and everything succeeds. -/
def textRuntime : RuntimeDeps String :=
  { supervisor := StaleExits.pidsGiven fun calls => 100 + UInt32.ofNat calls.length
    paths := { binConfigDir := "/bin/configs", tempDir := "/tmp" }
    generateSingboxConfigJson := .ok
    runCoreType := fun _ => .singBox
    displayLog := fun _ => true }

def connectTo (profileId : String) : RuntimeInput String :=
  .connect (.ok {
    activeProfileId := profileId
    main := profileId
    pre := none
    tunEnabled := false })

/-- A whole connect, and a crash of the core it has started. -/
def connectAndCrash : List (RuntimeInput String) :=
  [connectTo "a", .advance 0 {}, .advance 0 {}, .advance 0 {}, .advance 0 {},
    .processExited 101 none]

theorem runtime_files_match_crash :
    FilesMatch (connectAndCrash.foldl (step textRuntime) {}) := by
  refine runtime_files_match textRuntime connectAndCrash
    ⟨⟨rfl, ?_⟩, ?_, ?_, ?_, ?_, trivial, trivial⟩
  · intro hconnected
    cases hconnected
  · intro call _ hconnected
    cases hconnected
  · intro call _ hconnected
    cases hconnected
  · intro call _ hconnected
    cases hconnected
  · intro call _ hconnected
    cases hconnected

/-- A second connect writes its config and then finds no executable: the session of the first
one goes on, over the files of the second. -/
theorem runtime_files_match_counterexample :
    ¬ ∀ (deps : RuntimeDeps String) (inputs : List (RuntimeInput String)),
      FilesMatch (inputs.foldl (step deps) {}) := by
  intro h
  let inputs : List (RuntimeInput String) :=
    [connectTo "a", .advance 0 {}, .advance 0 {}, .advance 0 {}, .advance 0 {},
      connectTo "b", .advance 0 {}, .advance 0 { executable := .error "not found" }]
  have hconnected : Connected (inputs.foldl (step textRuntime) {}).supervisor := by
    unfold Connected
    decide
  obtain ⟨session, hsession, hprofile, hmain, -⟩ := h textRuntime inputs hconnected
  have hfirst : session = ⟨"a", "a", none⟩ := Option.some.inj (hsession.symm.trans (by decide))
  rw [hfirst] at hmain
  revert hmain
  decide

end RuntimeFiles
