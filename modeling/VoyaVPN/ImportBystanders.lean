import VoyaVPN.BundleImport

/-! The profile rows that an import has nothing to do with: they stay unless a parsed profile brings
the id of one. -/
namespace ImportBystanders

open Entities AppConfig ConfigMutation VoyaStore ActionRules ManagerSession ProfileNormalize
open ProfileManager SubscriptionManager ProfileSelection ImportLoop ImportText ImportOutcome
open RecordMerge BundleImport ProfileBundle

section Bystanders

variable (parsers : ImportParsers) (text : String) (subscriptionId : Option String)
  (before : Session)

/-- A row that is not of the subscription and matches no imported profile. -/
def Unrelated (row : ProfileItem) : Prop :=
  row ∈ before.database.rows.profiles.rows ∧
    ¬((trimOption subscriptionId).isSome = true ∧
      row.subscriptionId = trimOption subscriptionId) ∧
    ∀ profile ∈ survivors parsers text subscriptionId before,
      profileItemsMatch row profile false = false

/-- Every such row is still there as it was. -/
def Spares (after : Session) : Prop :=
  ∀ row, Unrelated parsers text subscriptionId before row →
    row ∈ after.database.rows.profiles.rows

variable {parsers text subscriptionId before} {after : Session} {result : ImportProfilesResult}

end Bystanders

section Samples

end Samples

end ImportBystanders
