import Mathlib.Data.List.Sort
import VoyaVPN.Entities
import VoyaVPN.KeyedTable
import VoyaVPN.RustText

/-! The check of a group before it is saved: its children among the stored profiles, and the search
for cycles that starts from it. -/
namespace GroupValidation

open Entities

structure GroupValidationResult where
  valid : Bool := false
  normalizedChildItems : String := ""
  childIndexIds : List String := []
  errors : List String := []
  warnings : List String := []
  deriving DecidableEq, Repr

abbrev ProfileMap := KeyedTable ProfileItem String ProfileItem.indexId

def nonempty (value : String) : Option String :=
  if RustText.trim value = "" then none else some (RustText.trim value)

def joinProfileIdList (values : List String) : String := ",".intercalate values

/-- The values of a `BTreeMap`, in the order of their keys. -/
def valuesOf (map : ProfileMap) : List ProfileItem :=
  map.rows.insertionSort fun first second => first.indexId.toList ≤ second.indexId.toList

def profilesById (profiles : List ProfileItem) : ProfileMap :=
  (profiles.filter fun profile => RustText.trim profile.indexId ≠ "").foldl KeyedTable.upsert {}

def effectiveProfileId (profile : ProfileItem) : String :=
  (nonempty profile.indexId).getD "__draft_group__"

def GroupValidationResult.pushError (result : GroupValidationResult) (message : String) :
    GroupValidationResult :=
  { result with errors := result.errors ++ [message] }

/-- A warning is given once. -/
def GroupValidationResult.pushWarning (result : GroupValidationResult) (message : String) :
    GroupValidationResult :=
  if message ∈ result.warnings then result
  else { result with warnings := result.warnings ++ [message] }

abbrev Gathered := List String × GroupValidationResult

/-- `seen` holds the ids that are in the list. -/
def pushUniqueChild (gathered : Gathered) (childId : String) : Gathered :=
  if childId ∈ gathered.1 then
    (gathered.1, gathered.2.pushWarning ("duplicate child profile ignored: " ++ childId))
  else (gathered.1 ++ [childId], gathered.2)

def missingChild (childId : String) : String := "child profile was not found: " ++ childId

def pushListedChild (map : ProfileMap) (reportMissing : Bool) (gathered : Gathered)
    (childId : String) : Gathered :=
  if map.contains childId then pushUniqueChild gathered childId
  else if reportMissing then (gathered.1, gathered.2.pushError (missingChild childId))
  else gathered

section Children

variable (regexNew : String → Option (String → Bool))

/-- The profiles that a group takes in by their subscription and remarks. -/
def sourcedChildren (map : ProfileMap) : ProfileProtocol → List ProfileItem
  | .policyGroup _ (some subscriptionId) filter _ =>
    let filter := (filter.bind nonempty).bind regexNew
    (valuesOf map).filter fun candidate =>
      candidate.subscriptionId = some subscriptionId ∧ !candidate.configType.isComplexType ∧
        (filter.map fun isMatch => isMatch candidate.remarks).getD true
  | _ => []

def effectiveChildIds (profile : ProfileItem) (map : ProfileMap) (result : GroupValidationResult)
    (reportMissing : Bool) : Gathered :=
  let listed :=
    profile.protocol.childProfileIds.foldl (pushListedChild map reportMissing) ([], result)
  (sourcedChildren regexNew map profile.protocol).foldl
    (fun gathered child => pushUniqueChild gathered child.indexId) listed

def cycleError (path : List String) : String :=
  "group cycle dependency: " ++ " -> ".intercalate path

/-- `stack` holds the ids on the way to this one, and `visiting` the same ids as a set. -/
def detectCycle (map : ProfileMap) : Nat → List String → GroupValidationResult → String →
    Option GroupValidationResult
  | 0, _, _, _ => none
  | fuel + 1, stack, result, indexId =>
    if indexId ∈ stack then
      some (result.pushError (cycleError (stack.drop (stack.idxOf indexId) ++ [indexId])))
    else
      match map.get indexId with
      | none => some result
      | some profile =>
        if profile.configType.isGroupType then
          let children := effectiveChildIds regexNew profile map result false
          children.1.foldlM (detectCycle map fuel (stack ++ [indexId])) children.2
        else some result

def groupKindLabel : ConfigType → String
  | .policyGroup => "policy group"
  | .proxyChain => "proxy chain"
  | _ => "group"

/-- The map in which the group stands under the id that it has, or under one for drafts. -/
def mapWithRoot (profile : ProfileItem) (profiles : List ProfileItem) : ProfileMap :=
  (profilesById profiles).upsert { profile with indexId := effectiveProfileId profile }

/-- What the children of the group have to say, without the search for cycles. -/
def checkChildren (profile : ProfileItem) (children : Gathered) : GroupValidationResult :=
  let result :=
    if children.1.isEmpty then
      children.2.pushError (groupKindLabel profile.configType ++ " has no valid child profiles")
    else children.2
  if profile.configType = .proxyChain ∧ children.1.length = 1 then
    { result with warnings := result.warnings ++
        ["proxy chain has one hop; two or more hops are needed to chain traffic"] }
  else result

/-- The search takes no more steps down than there are profiles. -/
def validateGroupProfile (profile : ProfileItem) (profiles : List ProfileItem) :
    Option GroupValidationResult :=
  if profile.configType.isGroupType then
    let map := mapWithRoot profile profiles
    let children := effectiveChildIds regexNew profile map { valid := true } true
    (detectCycle regexNew map (map.rows.length + 1) [] (checkChildren profile children)
      (effectiveProfileId profile)).map fun result =>
        { result with
          childIndexIds := children.1
          normalizedChildItems := joinProfileIdList children.1
          valid := result.errors.isEmpty }
  else
    some { errors := ["profile is not a policy group or proxy chain"] }

end Children

end GroupValidation
