import VoyaVPN.ManagerSession
import VoyaVPN.ProfileNormalize

/-! The profile manager and the group manager: what saves, copies, orders and deletes profiles
and keeps one of them the active one. -/
namespace ProfileManager

open Entities AppConfig ConfigMutation VoyaStore ActionRules ManagerSession ProfileNormalize

inductive ProfileManagerError where
  | database (error : DbError)
  | profileNotFound (indexId : String)
  | missingProfileId
  | invalidMove (indexId reason : String)
  deriving DecidableEq, Repr

inductive GroupManagerError where
  | profile (error : ProfileManagerError)
  | notGroupProfile
  | validation (errors : List String)
  deriving DecidableEq, Repr

inductive MoveAction where
  | top
  | up
  | down
  | bottom
  | position
  deriving DecidableEq, Repr

structure ProfileListItem where
  isActive : Bool
  profile : ProfileItem
  profileEx : ProfileExItem
  deriving DecidableEq, Repr

structure ProfileDedupeResult where
  total : Nat
  kept : Nat
  removedIndexIds : List String
  deriving DecidableEq, Repr

def defaultProfileSortStep : Int := 10

/-- `i32::try_from` with what stands for a number that does not fit. -/
def i32OfUsize (value : Nat) (otherwise : Int) : Int :=
  if value < 2 ^ 31 then value else otherwise

def wrapI32 (value : Int) : Int := value.bmod (2 ^ 32)

/-- `u32::try_from` with the largest number for one that does not fit. -/
def saturateU32 (value : Nat) : Nat := min value (2 ^ 32 - 1)

def toListItem (config : Config) (profile : ProfileItem) (profileEx : ProfileExItem) :
    ProfileListItem :=
  { isActive := config.indexId ≠ "" ∧ profile.indexId = config.indexId
    profile
    profileEx }

def profileItemsMatch (left right : ProfileItem) (compareRemarks : Bool) : Bool :=
  left.protocol = right.protocol ∧ left.transport = right.transport ∧ left.tls = right.tls ∧
    (compareRemarks = false ∨ left.remarks = right.remarks)

def nextActiveProfile (profiles : List ProfileItem) : String :=
  (((profiles.find? fun profile => profile.port > 0).or profiles.head?).map (·.indexId)).getD ""

section AnyError

variable {ε : Type}

def ensureActiveProfile : Action Session ε Bool := do
  let session ← get
  if session.config.indexId ≠ "" ∧
      session.database.rows.profiles.contains session.config.indexId then
    return false
  else
    let nextActive := nextActiveProfile session.database.listProfiles
    set (session.setActiveProfile nextActive)
    return decide (session.config.indexId ≠ nextActive)

/-- The deletes of one call, with the number of rows that they affect. -/
def deleteMany (indexIds : List String) : Action Session ε Nat :=
  indexIds.foldlM (fun deleted indexId => do
    let stored ← query fun store => store.rows.profiles.contains indexId
    execute fun store => store.deleteProfile indexId
    return deleted + stored.toNat) 0

def listProfiles (subscriptionId : Option String) : Action Session ε (List ProfileListItem) := do
  let session ← get
  return (session.database.listWithProfileEx subscriptionId).map fun item =>
    toListItem session.config item.1 item.2

end AnyError

def ensureProfileEx (indexId : String) : Action Session DbError ProfileExItem := do
  match ← query fun store => store.rows.profileExs.get indexId with
  | some item => return item
  | none =>
    let item : ProfileExItem := { indexId }
    tryExecute fun store => store.upsertProfileEx item
    return item

def setSort (indexId : String) (sort : Int) : Action Session DbError PUnit := do
  let item ← ensureProfileEx indexId
  tryExecute fun store => store.upsertProfileEx { item with sort }

def upsertWithProfileEx (profile : ProfileItem) (profileEx : ProfileExItem) :
    Action Session DbError PUnit := do
  tryExecute fun store => store.upsertProfile profile
  tryExecute fun store => store.upsertProfileEx profileEx

/-- The id a profile is saved under and whether it is new. -/
def identifyProfile (profile : ProfileItem) :
    Action Session ProfileManagerError (ProfileItem × Bool) := do
  if RustText.trim profile.indexId = "" then
    let indexId ← generateProfileId
    return ({ profile with indexId }, true)
  else
    let stored ← query fun store => store.rows.profiles.contains profile.indexId
    return (profile, !stored)

def profileExFor (indexId : String) (isNew : Bool) :
    Action Session ProfileManagerError ProfileExItem := do
  if isNew then
    let sort ← query Store.maxProfileSort
    return { indexId, sort := wrapI32 (sort + defaultProfileSortStep) }
  else
    let existing ← adaptError .database (ensureProfileEx indexId)
    return { existing with indexId }

def saveProfile (profile : ProfileItem) : Action Session ProfileManagerError ProfileListItem := do
  let (profile, isNew) ← identifyProfile profile
  let profile := normalizeProfile profile
  let profileEx ← profileExFor profile.indexId isNew
  adaptError .database (upsertWithProfileEx profile profileEx)
  let _ ← ensureActiveProfile
  let session ← get
  return toListItem session.config profile profileEx

def deleteProfiles (indexIds : List String) : Action Session ProfileManagerError Nat := do
  let deleted ← deleteMany indexIds
  let _ ← ensureActiveProfile
  return deleted

/-- One profile of a copy: the copies made and the place of the next one. -/
def copyProfile (state : List ProfileListItem × Int) (indexId : String) :
    Action Session ProfileManagerError (List ProfileListItem × Int) := do
  match ← query fun store => store.rows.profiles.get indexId with
  | none => return state
  | some source =>
    let newId ← generateProfileId
    let profile := normalizeProfile
      { source with
        indexId := newId
        remarks := source.remarks ++ "-clone" }
    let profileEx : ProfileExItem := { indexId := profile.indexId, sort := state.2 }
    adaptError .database (upsertWithProfileEx profile profileEx)
    let session ← get
    return (state.1 ++ [toListItem session.config profile profileEx],
      wrapI32 (state.2 + defaultProfileSortStep))

def copyProfiles (indexIds : List String) :
    Action Session ProfileManagerError (List ProfileListItem) := do
  let sort ← query Store.maxProfileSort
  let copied ← indexIds.foldlM copyProfile ([], wrapI32 (sort + defaultProfileSortStep))
  let _ ← ensureActiveProfile
  return copied.1

def setActiveProfile (indexId : String) : Action Session ProfileManagerError ProfileListItem := do
  if RustText.trim indexId = "" then
    throw .missingProfileId
  else
    match ← query fun store => store.rows.profiles.get indexId with
    | none => throw (.profileNotFound indexId)
    | some profile =>
      let profileEx ← adaptError .database (ensureProfileEx indexId)
      modify fun session => session.setActiveProfile indexId
      let session ← get
      return toListItem session.config profile profileEx

/-- The places in the order given, ten apart. -/
def setSorts (indexIds : List String) : Action Session ProfileManagerError PUnit :=
  indexIds.zipIdx.forM fun entry =>
    adaptError .database
      (setSort entry.1
        (wrapI32 ((i32OfUsize entry.2 (2 ^ 31 - 2) + 1) * defaultProfileSortStep)))

def nextSort (index count : Nat) (position : Option Int) : MoveAction → Option Int
  | .top => if index = 0 then none else some (defaultProfileSortStep - 1)
  | .up =>
    if index = 0 then none
    else some (wrapI32 (i32OfUsize index ((2 ^ 31 - 1) / defaultProfileSortStep) *
      defaultProfileSortStep - 1))
  | .down =>
    if index + 1 ≥ count then none
    else some (wrapI32 ((i32OfUsize index ((2 ^ 31 - 1) / defaultProfileSortStep) + 2) *
      defaultProfileSortStep + 1))
  | .bottom =>
    if index + 1 ≥ count then none
    else some (wrapI32 (i32OfUsize count ((2 ^ 31 - 1) / defaultProfileSortStep) *
      defaultProfileSortStep + 1))
  | .position => some (wrapI32 (position.getD 0 * defaultProfileSortStep + 1))

def moveProfile (subscriptionId : Option String) (indexId : String) (action : MoveAction)
    (position : Option Int) : Action Session ProfileManagerError (List ProfileListItem) := do
  let items ← query fun store => (store.listWithProfileEx subscriptionId).map (·.1.indexId)
  if indexId ∉ items then
    throw (.profileNotFound indexId)
  else
    setSorts items
    match nextSort (items.idxOf indexId) items.length position action with
    | none => listProfiles subscriptionId
    | some sort =>
      adaptError .database (setSort indexId sort)
      listProfiles subscriptionId

/-- The sort keys are one parameter: what they do is to order the pairs anew. -/
def sortProfiles
    (sortProfilePairs : List (ProfileItem × ProfileExItem) → List (ProfileItem × ProfileExItem))
    (subscriptionId : Option String) :
    Action Session ProfileManagerError (List ProfileListItem) := do
  let items ← query fun store => store.listWithProfileEx subscriptionId
  setSorts ((sortProfilePairs items).map (·.1.indexId))
  listProfiles subscriptionId

/-- One profile of the search for duplicates: what is kept and the ids of the others. -/
def sortOut (state : List ProfileItem × List String) (profile : ProfileItem) :
    List ProfileItem × List String :=
  if profile.configType.isComplexType then (state.1 ++ [profile], state.2)
  else if state.1.any fun existing => profileItemsMatch existing profile false then
    (state.1, state.2 ++ [profile.indexId])
  else (state.1 ++ [profile], state.2)

def dedupeProfiles (subscriptionId : Option String) (keepOlder : Bool) :
    Action Session ProfileManagerError ProfileDedupeResult := do
  let listed ← query fun store => store.listBySubscriptionId subscriptionId
  let profiles := if keepOlder then listed else listed.reverse
  let removedIndexIds := (profiles.foldl sortOut ([], [])).2
  let _ ← deleteMany removedIndexIds
  let _ ← ensureActiveProfile
  return {
    total := saturateU32 profiles.length
    kept := saturateU32 (profiles.length - removedIndexIds.length)
    removedIndexIds }

/-- The stored profiles with the draft in the place of the row it replaces. -/
def profilesWithDraft (store : Store) (profile : ProfileItem) : List ProfileItem :=
  let profiles := store.listProfiles
  if RustText.trim profile.indexId ≠ "" ∧ store.rows.profiles.contains profile.indexId then
    profiles.map fun candidate => if candidate.indexId = profile.indexId then profile else candidate
  else profiles ++ [profile]

/-- `validate` gives the errors of a group among the profiles it may refer to. -/
def saveGroupProfile (validate : ProfileItem → List ProfileItem → List String)
    (profile : ProfileItem) : Action Session GroupManagerError ProfileListItem := do
  if profile.configType.isGroupType then
    let profiles ← query fun store => profilesWithDraft store profile
    if validate profile profiles = [] then
      adaptError .profile (saveProfile profile)
    else
      throw (.validation (validate profile profiles))
  else
    throw .notGroupProfile

end ProfileManager
