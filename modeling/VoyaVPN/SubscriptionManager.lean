import VoyaVPN.ProfileBundle
import VoyaVPN.ProfileManager

/-! The subscription manager: what saves and deletes subscriptions, and the import of profiles
from a text with its search for the rows that the parsed profiles already have. -/
namespace SubscriptionManager

open Entities AppConfig ConfigMutation VoyaStore ActionRules ManagerSession ProfileNormalize
open ProfileManager

inductive SubscriptionManagerError where
  | database (error : DbError)
  | profile (error : ProfileManagerError)
  | missingRemarks
  | missingUrl
  | invalidSubscriptionUrl
  | invalidFilter (message : String)
  | noImportableProfiles
  deriving DecidableEq, Repr

/-- What an import reads its text with. -/
structure ImportParsers where
  decodeBase64Payload : String → Option String
  countDiscardedNodeOverrides : String → Nat
  parseShareLink : String → Except String ProfileItem
  decodeVoyaBundle : String → Except String ProfileBundle.VoyaProfileBundleV1
  parseSsSip008 : String → Except String (List ProfileItem)
  parseWireguardConfig : String → Except String (List ProfileItem)
  parseFullCustomConfig : String → Except String (List (ProfileItem × String))
  compileRegex : String → Except String (String → Bool)

structure ParsedImportText where
  failedLines : Nat := 0
  discardedNodeOverrides : Nat := 0
  messages : List String := []
  profiles : List ProfileItem := []
  addedSubscription : Bool := false
  deriving DecidableEq, Repr

structure ImportProfilesResult where
  imported : Nat
  updated : Nat
  skipped : Nat
  parsed : Nat
  filtered : Nat
  deduped : Nat
  failed : Nat
  removedExisting : Nat
  removedDuplicates : Nat
  discardedNodeOverrides : Nat
  subscriptionId : Option String
  importedIndexIds : List String
  updatedIndexIds : List String
  messages : List String
  deriving DecidableEq, Repr

structure SubscriptionUpdateResult where
  updated : Nat := 0
  skipped : Nat := 0
  imported : Nat := 0
  removedExisting : Nat := 0
  messages : List String := []
  deriving DecidableEq, Repr

structure PreparedSubscriptionImport where
  item : SubItem
  content : String
  deriving DecidableEq, Repr

structure PreparedSubscriptionUpdate where
  imports : List PreparedSubscriptionImport
  result : SubscriptionUpdateResult
  deriving DecidableEq, Repr

abbrev Entry := ProfileItem × ProfileExItem

def reportableShareLinkSchemes : List String :=
  ["vmess://", "ss://", "socks://", "socks4://", "socks5://", "trojan://", "vless://",
    "hysteria2://", "hy2://", "tuic://", "wireguard://", "anytls://", "naive://",
    "naive+https://", "naive+quic://"]

def lineHasPrefixCi (line start : String) : Bool :=
  RustText.startsWith (RustText.toAsciiLowercase line) (RustText.toAsciiLowercase start)

def shouldReportLineParseError (line : String) : Bool :=
  reportableShareLinkSchemes.any (lineHasPrefixCi (RustText.trim line))

def normalizeSubscription (item : SubItem) : SubItem :=
  { item with
    id := RustText.trim item.id
    remarks := RustText.trim item.remarks
    url := RustText.trim item.url
    moreUrl := RustText.trim item.moreUrl
    userAgent := RustText.trim item.userAgent
    filter := trimOption item.filter
    convertTarget := trimOption item.convertTarget }

def isHttpUrl (value : String) : Bool :=
  RustText.startsWith (RustText.trim value) "https://" ||
    RustText.startsWith (RustText.trim value) "http://"

def extractRemarksFromUrl (url : String) : Option String := do
  let query ← RustText.splitOnce url '?'
  (RustText.split query.2 (· == '&')).findSome? fun part => do
    let (name, value) ← RustText.splitOnce part '='
    if RustText.eqIgnoreAsciiCase name "remarks" ∧ value ≠ "" then some value else none

def saveSubscription (item : SubItem) : Action Session SubscriptionManagerError SubItem := do
  let item := normalizeSubscription item
  if item.remarks = "" then
    throw .missingRemarks
  else if item.url ≠ "" ∧ isHttpUrl item.url = false then
    throw .invalidSubscriptionUrl
  else
    let id ← idOrNew (decide (item.id = "")) item.id generateSubscriptionId
    let maxSort ← query Store.maxSubscriptionSort
    let item :=
      { item with
        id
        sort := if item.sort ≤ 0 then wrapI32 (maxSort + 1) else item.sort }
    execute fun store => store.upsertSubscription item
    modify fun session =>
      if session.config.subIndexId = "" then session.setActiveSubscription item.id else session
    return item

def addSubscriptionFromUrl (url : String) : Action Session SubscriptionManagerError SubItem := do
  let url := RustText.trim url
  if url = "" then
    throw .missingUrl
  else if isHttpUrl url = false then
    throw .invalidSubscriptionUrl
  else
    match ← query fun store => store.subscriptionByUrl url with
    | some existing => return existing
    | none =>
      saveSubscription
        { remarks := (extractRemarksFromUrl url).getD "import_sub"
          url }

def deleteSubscription (deleted : Nat) (id : String) :
    Action Session SubscriptionManagerError Nat := do
  let stored ← query fun store => store.rows.subscriptions.contains id
  if stored then
    execute fun store => store.deleteSubscription id
    execute fun store => store.deleteProfilesBySubscriptionId id
    return saturateU32 (deleted + 1)
  else
    return deleted

/-- Another subscription takes the place of one that is gone. -/
def ensureActiveSubscription : Action Session SubscriptionManagerError PUnit :=
  modify fun session =>
    let subs := session.database.listSubscriptions
    if session.config.subIndexId ≠ "" ∧ ∀ item ∈ subs, item.id ≠ session.config.subIndexId then
      session.setActiveSubscription ((subs.getLast?.map (·.id)).getD "")
    else session

def deleteSubscriptions (ids : List String) : Action Session SubscriptionManagerError Nat := do
  let deleted ← ids.foldlM deleteSubscription 0
  ensureActiveSubscription
  let _ ← ensureActiveProfile
  return deleted

section Import

variable (parsers : ImportParsers)

def parseLine (subscriptionId : String) (state : ParsedImportText × List String)
    (line : String × Nat) :
    Action Session SubscriptionManagerError (ParsedImportText × List String) := do
  let (parsed, seen) := state
  if subscriptionId ≠ "" ∧ line.1 ∈ seen then
    return state
  else
    let seen := if subscriptionId ≠ "" then line.1 :: seen else seen
    if RustText.trim subscriptionId = "" ∧ isHttpUrl line.1 then
      let _ ← addSubscriptionFromUrl line.1
      return ({ parsed with
        addedSubscription := true
        messages := parsed.messages ++ ["Line " ++ toString (line.2 + 1) ++
          " added as a subscription source; run subscription update to import its profiles."] },
        seen)
    else
      match parsers.parseShareLink line.1 with
      | .ok profile => return ({ parsed with profiles := parsed.profiles ++ [profile] }, seen)
      | .error error =>
        if shouldReportLineParseError line.1 then
          return ({ parsed with
            failedLines := parsed.failedLines + 1
            messages := parsed.messages ++
              ["Line " ++ toString (line.2 + 1) ++ " was skipped: " ++ error] }, seen)
        else return (parsed, seen)

def importLines (content : String) : List String :=
  ((RustText.lines content).map RustText.trim).filter fun line => line ≠ ""

def wholeTextProfiles (content subscriptionId : String) : List ProfileItem :=
  ((ProfileBundle.parseVoyaProfileBundle parsers.decodeVoyaBundle parsers.parseShareLink content
      subscriptionId).toOption.getD []) ++
    ((parsers.parseSsSip008 content).toOption.getD []) ++
    ((parsers.parseWireguardConfig content).toOption.getD []) ++
    (((parsers.parseFullCustomConfig content).toOption.getD []).map fun found =>
      match found.1.protocol with
      | .custom _ filter => { found.1 with protocol := .custom found.2 filter }
      | _ => found.1)

def parseContent (subscriptionId : String) (parsed : ParsedImportText) (content : String) :
    Action Session SubscriptionManagerError ParsedImportText := do
  let counted :=
    { parsed with
      discardedNodeOverrides :=
        parsed.discardedNodeOverrides + parsers.countDiscardedNodeOverrides content }
  let (parsed, _) ← (importLines content).zipIdx.foldlM (parseLine parsers subscriptionId)
    (counted, [])
  return { parsed with
    profiles := parsed.profiles ++ wholeTextProfiles parsers content subscriptionId }

def parseImportText (text subscriptionId : String) :
    Action Session SubscriptionManagerError ParsedImportText := do
  let contents := (parsers.decodeBase64Payload text).toList ++ [text]
  let parsed ← contents.foldlM (parseContent parsers subscriptionId) {}
  if parsed.profiles = [] ∧ parsed.addedSubscription = false ∧ parsed.failedLines = 0 then
    throw .noImportableProfiles
  else
    return parsed

def compileFilter (filter : Option String) :
    Except SubscriptionManagerError (Option (String → Bool)) :=
  match trimOption filter with
  | none => .ok none
  | some filter => ((parsers.compileRegex filter).map some).mapError .invalidFilter

end Import

def retainMatching (regex : Option (String → Bool)) (profiles : List ProfileItem) :
    List ProfileItem :=
  match regex with
  | none => profiles
  | some isMatch => profiles.filter fun profile => isMatch profile.remarks

def dedupeStep (kept : List ProfileItem) (profile : ProfileItem) : List ProfileItem :=
  if profile.configType ≠ .custom ∧ profile.configType.isComplexType = false ∧
      kept.any fun existing => profileItemsMatch existing profile false then kept
  else kept ++ [profile]

def dedupeProfiles (profiles : List ProfileItem) : List ProfileItem :=
  profiles.foldl dedupeStep []

def assignSubscription (subscriptionId : Option String) (profile : ProfileItem) : ProfileItem :=
  normalizeProfile { profile with subscriptionId }

def canonicalRank (activeIndexId : String) (targetSubscriptionId : Option String)
    (found : Entry × Nat) : Nat × Nat × Int × Nat :=
  (if activeIndexId ≠ "" ∧ found.1.1.indexId = activeIndexId then 0 else 1,
    if targetSubscriptionId.isSome ∧ found.1.1.subscriptionId = targetSubscriptionId then 0 else 1,
    found.1.2.sort, found.2)

def rankBefore (first second : Nat × Nat × Int × Nat) : Bool :=
  first.1 < second.1 ∨ first.1 = second.1 ∧
    (first.2.1 < second.2.1 ∨ first.2.1 = second.2.1 ∧
      (first.2.2.1 < second.2.2.1 ∨ first.2.2.1 = second.2.2.1 ∧ first.2.2.2 < second.2.2.2))

def minBy {α : Type} (before : α → α → Bool) : List α → Option α
  | [] => none
  | value :: values =>
    match minBy before values with
    | none => some value
    | some least => if before least value then some least else some value

/-- An index comes with the entry it stands for. -/
def chooseCanonicalMatchIndex (found : List (Entry × Nat)) (activeIndexId : String)
    (targetSubscriptionId : Option String) : Option (Entry × Nat) :=
  minBy (fun first second =>
    rankBefore (canonicalRank activeIndexId targetSubscriptionId first)
      (canonicalRank activeIndexId targetSubscriptionId second)) found

def replaceFirst (isOld : Entry → Bool) (new : Entry) : List Entry → Option (List Entry)
  | [] => none
  | entry :: entries =>
    if isOld entry then some (new :: entries)
    else (replaceFirst isOld new entries).map (entry :: ·)

def updateExistingProfileCache (existingProfiles : List Entry) (saved : Entry)
    (removedIndexIds : List String) : List Entry :=
  let retained := existingProfiles.filter fun entry =>
    entry.1.indexId = saved.1.indexId ∨ entry.1.indexId ∉ removedIndexIds
  (replaceFirst (fun entry => entry.1.indexId = saved.1.indexId) saved retained).getD
    (retained ++ [saved])

structure ImportState where
  existingProfiles : List Entry
  importedIndexIds : List String := []
  updatedIndexIds : List String := []
  duplicateIndexIdsToRemove : List String := []
  deriving DecidableEq, Repr

def matchingEntries (existingProfiles : List Entry) (profile : ProfileItem) :
    List (Entry × Nat) :=
  existingProfiles.zipIdx.filter fun found => profileItemsMatch found.1.1 profile false

/-- One parsed profile: it is saved in the place of the row it matches, or as it is. -/
def importProfile (subscriptionId : Option String) (state : ImportState) (profile : ProfileItem) :
    Action Session SubscriptionManagerError ImportState := do
  let session ← get
  let found := matchingEntries state.existingProfiles profile
  match chooseCanonicalMatchIndex found session.config.indexId subscriptionId with
  | some canonical =>
    let canonicalIndexId := canonical.1.1.indexId
    let duplicateIndexIds := (found.map (·.1.1.indexId)).filter (· ≠ canonicalIndexId)
    let saved ← adaptError .profile (saveProfile { profile with indexId := canonicalIndexId })
    return {
      existingProfiles :=
        updateExistingProfileCache state.existingProfiles (saved.profile, saved.profileEx)
          duplicateIndexIds
      importedIndexIds := state.importedIndexIds ++ [saved.profile.indexId]
      updatedIndexIds := state.updatedIndexIds ++ [saved.profile.indexId]
      duplicateIndexIdsToRemove := state.duplicateIndexIdsToRemove ++ duplicateIndexIds }
  | none =>
    let saved ← adaptError .profile (saveProfile profile)
    return { state with
      existingProfiles := state.existingProfiles ++ [(saved.profile, saved.profileEx)]
      importedIndexIds := state.importedIndexIds ++ [saved.profile.indexId] }

/-- The rows that the subscription had and that the import did not save again. -/
def staleIndexIds (oldProfiles : List ProfileItem) (subscriptionId : Option String)
    (importedIndexIds : List String) : List String :=
  if subscriptionId.isSome then
    (oldProfiles.filter fun profile =>
      profile.subscriptionId = subscriptionId ∧ profile.indexId ∉ importedIndexIds).map (·.indexId)
  else []

/-- The saves and deletes of an import once it is known what it imports. -/
def applyImport (subscriptionId : Option String) (oldProfiles profiles : List ProfileItem) :
    Action Session SubscriptionManagerError (ImportState × Nat × Nat) := do
  let existingProfiles ← query fun store => store.listWithProfileEx none
  let state ← profiles.foldlM (importProfile subscriptionId) { existingProfiles }
  let removedDuplicates ← deleteMany state.duplicateIndexIdsToRemove
  let removedExisting ← deleteMany
    (staleIndexIds oldProfiles subscriptionId state.importedIndexIds)
  let _ ← ensureActiveProfile
  return (state, removedDuplicates, removedExisting)

def importSummary (subscriptionId : Option String) (parsedImport : ParsedImportText)
    (matching profiles : List ProfileItem) : ImportProfilesResult :=
  let filtered := parsedImport.profiles.length - matching.length
  let deduped := matching.length - profiles.length
  { imported := 0
    updated := 0
    skipped := saturateU32 (filtered + deduped + parsedImport.failedLines)
    parsed := saturateU32 parsedImport.profiles.length
    filtered := saturateU32 filtered
    deduped := saturateU32 deduped
    failed := saturateU32 parsedImport.failedLines
    removedExisting := 0
    removedDuplicates := 0
    discardedNodeOverrides := saturateU32 parsedImport.discardedNodeOverrides
    subscriptionId
    importedIndexIds := []
    updatedIndexIds := []
    messages := parsedImport.messages }

def importParsed (subscriptionId : Option String) (regex : Option (String → Bool))
    (oldProfiles : List ProfileItem) (parsedImport : ParsedImportText) :
    Action Session SubscriptionManagerError ImportProfilesResult := do
  let matching := retainMatching regex parsedImport.profiles
  let profiles := dedupeProfiles (matching.map (assignSubscription subscriptionId))
  let summary := importSummary subscriptionId parsedImport matching profiles
  if profiles = [] then
    let _ ← ensureActiveProfile
    return summary
  else
    let (state, removedDuplicates, removedExisting) ←
      applyImport subscriptionId oldProfiles profiles
    return { summary with
      imported := saturateU32 state.importedIndexIds.length
      updated := saturateU32 state.updatedIndexIds.length
      removedExisting := saturateU32 removedExisting
      removedDuplicates := saturateU32 removedDuplicates
      importedIndexIds := state.importedIndexIds
      updatedIndexIds := state.updatedIndexIds }

def profilesBeforeImport (subscriptionId : Option String) (store : Store) : List ProfileItem :=
  if subscriptionId.isSome then store.listBySubscriptionId subscriptionId else []

def importProfilesFromText (parsers : ImportParsers) (text : String)
    (subscriptionId : Option String) :
    Action Session SubscriptionManagerError ImportProfilesResult := do
  let subscriptionId := trimOption subscriptionId
  let subItem ← query fun store => subscriptionId.bind store.rows.subscriptions.get
  let regex ← fromExcept (compileFilter parsers (subItem.bind (·.filter)))
  let oldProfiles ← query (profilesBeforeImport subscriptionId)
  let parsedImport ← parseImportText parsers text (subscriptionId.getD "")
  importParsed subscriptionId regex oldProfiles parsedImport

/-- One downloaded text. The outcome of its import is looked at, not passed on, when nothing
could be imported from it. -/
def applyPreparedImport (parsers : ImportParsers) (result : SubscriptionUpdateResult)
    (prepared : PreparedSubscriptionImport) :
    Action Session SubscriptionManagerError SubscriptionUpdateResult := do
  let current ← query fun store => store.rows.subscriptions.get prepared.item.id
  if current ≠ some prepared.item then
    return { result with
      skipped := saturateU32 (result.skipped + 1)
      messages := result.messages ++ [prepared.item.remarks ++ "->subscription changed while" ++
        " the update was downloading; prepared content was discarded"] }
  else
    match ← attempt (importProfilesFromText parsers prepared.content (some prepared.item.id)) with
    | .ok imported =>
      if imported.imported > 0 then
        return { updated := saturateU32 (result.updated + 1)
                 skipped := result.skipped
                 imported := saturateU32 (result.imported + imported.imported)
                 removedExisting := saturateU32 (result.removedExisting + imported.removedExisting)
                 messages := result.messages ++ [prepared.item.remarks ++ "->imported " ++
                   toString imported.imported ++ " profiles"] }
      else
        return { result with
          skipped := saturateU32 (result.skipped + 1)
          messages := result.messages ++ [prepared.item.remarks ++ "->no profiles were imported"] }
    | .error .noImportableProfiles =>
      return { result with
        skipped := saturateU32 (result.skipped + 1)
        messages := result.messages ++
          [prepared.item.remarks ++ "->no importable profiles were found"] }
    | .error error => throw error

def applyPreparedSubscriptionUpdate (parsers : ImportParsers)
    (prepared : PreparedSubscriptionUpdate) :
    Action Session SubscriptionManagerError SubscriptionUpdateResult :=
  prepared.imports.foldlM (applyPreparedImport parsers) prepared.result

end SubscriptionManager
