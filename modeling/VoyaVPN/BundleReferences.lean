import VoyaVPN.BundleImport
import VoyaVPN.ImportVisits

/-! The references of the groups of a bundle: the ids that the bundle gives its entries and the ids
of the rows that an import stores these under. -/
namespace BundleReferences

open Entities AppConfig ConfigMutation VoyaStore ActionRules ManagerSession ProfileNormalize
open ProfileManager SubscriptionManager ProfileSelection ImportLoop ImportText ImportOutcome
open RecordMerge BundleImport ProfileBundle ImportVisits

section Ids

end Ids

section References

variable (parsers : ImportParsers) (text : String) (subscriptionId : Option String)
  (before : Session)

/-- The text is a bundle, and its entries are read as the profiles. -/
def BundleText (bundle : VoyaProfileBundleV1) (profiles : List ProfileItem) : Prop :=
  ∃ payload, RustText.stripPrefix (RustText.trim text) voyaProfileBundlePrefix = some payload ∧
    parsers.decodeVoyaBundle payload = .ok bundle ∧
    parseVoyaProfileBundle parsers.decodeVoyaBundle parsers.parseShareLink text
      ((trimOption subscriptionId).getD "") = .ok profiles

end References

section Entries

variable {bundle : VoyaProfileBundleV1} {profiles : List ProfileItem}

end Entries

section Results

variable {parsers : ImportParsers} {text : String} {subscriptionId : Option String}
  {before between after : Session} {result : ImportProfilesResult} {known : List ProfileItem}
  {final : RecordMerge.State profileKind} {low : Nat} {assign : ProfileData → String}
  {bundle : VoyaProfileBundleV1} {profiles : List ProfileItem}

theorem BundleText.read (h : BundleText parsers text subscriptionId bundle profiles) :
    BundleRead bundle profiles := by
  obtain ⟨payload, hpayload, hdecoded, hparsed⟩ := h
  obtain ⟨found, other, hfound, hother, hread⟩ := parseVoyaProfileBundle_ok hparsed
  rw [hpayload] at hfound
  cases hfound
  rw [hdecoded] at hother
  cases hother
  exact hread

end Results

section Samples

end Samples

end BundleReferences
