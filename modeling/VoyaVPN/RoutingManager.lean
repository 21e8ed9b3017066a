import VoyaVPN.ProfileManager

/-! The routing manager: what saves and deletes routing profiles and their rules, applies a
prepared template and keeps one of the routing profiles the active one. -/
namespace RoutingManager

open Entities AppConfig ConfigMutation VoyaStore ActionRules ManagerSession
open ProfileManager (wrapI32 saturateU32 MoveAction)

inductive RoutingManagerError where
  | database (error : DbError)
  | routingNotFound (id : String)
  | missingRoutingId
  | ruleNotFound (routingId ruleId : String)
  | invalidTemplate (message : String)
  | invalidRules (message : String)
  | invalidMove (ruleId reason : String)
  deriving DecidableEq, Repr

structure PreparedRoutingTemplate where
  versionPrefix : Option String
  items : List RoutingItem
  deriving DecidableEq, Repr

structure RoutingTemplateApplyResult where
  routingIds : List String
  activeRoutingId : Option String
  reusedExistingRouting : Bool
  deriving DecidableEq, Repr

def defaultRoutingSortStep : Int := 10

def defaultDomainStrategy : String := "AsIs"

section AnyError

variable {ε : Type}

def normalizeRule (rule : RulesItem) : Action Session ε RulesItem := do
  if RustText.trim rule.id = "" then
    let id ← generateRuleId
    return { rule with id }
  else return rule

def normalizeRoutingItem (item : RoutingItem) : Action Session ε RoutingItem := do
  let id ← idOrNew (decide (RustText.trim item.id = "")) item.id generateRoutingId
  let ruleSet ← item.ruleSet.foldlM (fun rules rule => do
    let rule ← normalizeRule rule
    return rules ++ [rule]) []
  return { item with
    id
    remarks := if RustText.trim item.remarks = "" then "Routing" else item.remarks
    domainStrategy :=
      if RustText.trim item.domainStrategy = "" then defaultDomainStrategy else item.domainStrategy
    ruleSet }

def setActiveInStore (id : String) : Action Session ε Bool := do
  let session ← get
  let (found, database) := session.database.setActiveRouting id
  set (session.setDatabase database)
  return found

/-- The active routing of the store and of the configuration become the same one. -/
def makeActive (id : String) : Action Session ε PUnit := do
  let _ ← setActiveInStore id
  modify fun session => session.setActiveRouting id

def activateWhen (should : Bool) (id : String) : Action Session ε PUnit :=
  if should then makeActive id else pure ⟨⟩

/-- What takes the place of an active routing that is missing. -/
def replacementRouting (session : Session) : Option RoutingItem :=
  let configured := RustText.trim session.config.routingBasicItem.routingIndexId
  (if configured = "" then none else session.database.getRouting configured).or
    session.database.firstRouting

def ensureActiveRouting : Action Session ε (Option RoutingItem) := do
  let session ← get
  match session.database.activeRouting with
  | some active =>
    modify fun session => session.setActiveRouting active.id
    return some active
  | none =>
    match replacementRouting session with
    | some item =>
      makeActive item.id
      return some item
    | none =>
      modify fun session => session.setActiveRouting ""
      return none

end AnyError

def storedRouting (id : String) : Action Session RoutingManagerError RoutingItem := do
  match ← query fun store => store.getRouting id with
  | some item => return item
  | none => throw (.routingNotFound id)

def loadRouting (id : String) : Action Session RoutingManagerError RoutingItem := do
  if RustText.trim id = "" then throw .missingRoutingId
  else storedRouting id

def saveRouting (item : RoutingItem) : Action Session RoutingManagerError RoutingItem := do
  let activeId ← query fun store => store.activeRouting.map (·.id)
  let isBlank := decide (RustText.trim item.id = "")
  let id ← idOrNew isBlank item.id generateRoutingId
  let stored ← query fun store => store.rows.routings.contains id
  let isNew := isBlank || !stored
  let shouldActivate := decide (activeId = some id) || activeId.isNone
  let item ← normalizeRoutingItem { item with id }
  let maxSort ← query Store.maxRoutingSort
  let item :=
    if isNew ∧ item.sort ≤ 0 then { item with sort := wrapI32 (maxSort + defaultRoutingSortStep) }
    else item
  execute fun store => store.upsertRouting item
  activateWhen shouldActivate item.id
  let _ ← ensureActiveRouting
  storedRouting item.id

def deleteManyRoutings (ids : List String) : Action Session RoutingManagerError Nat :=
  ids.foldlM (fun deleted id => do
    let stored ← query fun store => store.rows.routings.contains id
    execute fun store => store.deleteRouting id
    return deleted + stored.toNat) 0

def deleteRoutings (ids : List String) : Action Session RoutingManagerError Nat := do
  let deleted ← deleteManyRoutings ids
  let _ ← ensureActiveRouting
  return saturateU32 deleted

def setActiveRouting (id : String) : Action Session RoutingManagerError RoutingItem := do
  if RustText.trim id = "" then throw .missingRoutingId
  else
    let found ← setActiveInStore id
    if found then
      modify fun session => session.setActiveRouting id
      storedRouting id
    else throw (.routingNotFound id)

/-- A change of the rules of a routing that is stored. -/
def storeRules (routing : RoutingItem) (ruleSet : List RulesItem) :
    Action Session RoutingManagerError RoutingItem := do
  let routing ← normalizeRoutingItem { routing with ruleSet }
  execute fun store => store.upsertRouting routing
  return routing

def putRule (rule : RulesItem) : List RulesItem → List RulesItem
  | [] => [rule]
  | candidate :: rules =>
    if candidate.id = rule.id then rule :: rules else candidate :: putRule rule rules

def saveRule (routingId : String) (rule : RulesItem) :
    Action Session RoutingManagerError RoutingItem := do
  let routing ← loadRouting routingId
  let rule ← normalizeRule rule
  storeRules routing (putRule rule routing.ruleSet)

def deleteRules (routingId : String) (ruleIds : List String) :
    Action Session RoutingManagerError RoutingItem := do
  let routing ← loadRouting routingId
  let ruleSet := routing.ruleSet.filter fun rule => rule.id ∉ ruleIds
  match ruleIds with
  | ruleId :: _ =>
    if routing.ruleSet.length = ruleSet.length then throw (.ruleNotFound routingId ruleId)
    else storeRules routing ruleSet
  | [] => storeRules routing ruleSet

def movedIndex (index count : Nat) (action : MoveAction) (position : Option Int) :
    Except String Nat :=
  match action with
  | .top => .ok 0
  | .up => .ok (index - 1)
  | .down => .ok (min (index + 2) count)
  | .bottom => .ok count
  | .position =>
    if position.getD 0 < 0 then .error "position must be non-negative"
    else .ok (min (position.getD 0).toNat count)

def moveRule (routingId ruleId : String) (action : MoveAction) (position : Option Int) :
    Action Session RoutingManagerError RoutingItem := do
  let routing ← loadRouting routingId
  match routing.ruleSet.find? fun rule => rule.id = ruleId with
  | none => throw (.ruleNotFound routingId ruleId)
  | some rule =>
    let index := routing.ruleSet.idxOf rule
    match movedIndex index routing.ruleSet.length action position with
    | .error reason => throw (.invalidMove ruleId reason)
    | .ok nextIndex =>
      if nextIndex = index then storeRules routing routing.ruleSet
      else
        let adjusted := if nextIndex > index then nextIndex - 1 else nextIndex
        storeRules routing ((routing.ruleSet.eraseIdx index).insertIdx adjusted rule)

/-- One item of a template: the ids stored so far and the place of the last one. -/
def applyTemplateItem (state : List String × Int) (item : RoutingItem) :
    Action Session RoutingManagerError (List String × Int) := do
  let sort := wrapI32 (state.2 + defaultRoutingSortStep)
  let item ← normalizeRoutingItem { item with sort }
  execute fun store => store.upsertRouting item
  return (state.1 ++ [item.id], sort)

def enableRouting (existing : RoutingItem) : Action Session RoutingManagerError PUnit :=
  if existing.enabled = false then
    execute fun store => store.upsertRouting { existing with enabled := true }
  else pure ⟨⟩

/-- A stored routing of the template's version is used again. -/
def reuseRouting (existing : RoutingItem) :
    Action Session RoutingManagerError RoutingTemplateApplyResult := do
  enableRouting existing
  makeActive existing.id
  return {
    routingIds := [existing.id]
    activeRoutingId := some existing.id
    reusedExistingRouting := true }

def applyPreparedConfigTemplate (prepared : PreparedRoutingTemplate) :
    Action Session RoutingManagerError RoutingTemplateApplyResult := do
  let existing ← query Store.listRoutings
  match prepared.versionPrefix.bind fun version =>
      existing.find? fun item => RustText.startsWith item.remarks version with
  | some existingItem => reuseRouting existingItem
  | none =>
    if prepared.items = [] then
      throw (.invalidTemplate "template contains no importable routing items")
    else
      let maxSort ← query Store.maxRoutingSort
      let (routingIds, _) ← prepared.items.foldlM applyTemplateItem ([], maxSort)
      activateWhen routingIds.head?.isSome (routingIds.head?.getD "")
      return {
        routingIds
        activeRoutingId := routingIds.head?
        reusedExistingRouting := false }

end RoutingManager
