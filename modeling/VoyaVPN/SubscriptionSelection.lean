import VoyaVPN.ProfileSelection

/-! The active profile after the operations of the subscription manager, which delete and save
profiles that they do not name. -/
namespace SubscriptionSelection

open Entities AppConfig ConfigMutation VoyaStore ActionRules ManagerSession ProfileNormalize
open ProfileManager SubscriptionManager ProfileSelection

theorem saveProfile_keeps (profile : ProfileItem) : Keeps ProfileFrame (saveProfile profile) := by
  apply keeps_bind_when profileFrame
    ((identifyProfile_keeps profile).mono fun _ _ h => h.toProfileFrame)
    (identifyProfile_yields profile)
  intro found hid
  apply keeps_bind profileFrame ((profileExFor_keeps _ _).mono fun _ _ h => h.toProfileFrame)
  intro profileEx
  apply keeps_bind profileFrame ((upsertWithProfileEx_keeps profileEx hid).adaptError _)
  intro _
  apply keeps_bind profileFrame ensureActiveProfile_keeps
  intro _
  exact keeps_bind profileFrame (keeps_get profileFrame) fun _ => keeps_pure profileFrame _

section Subscriptions

theorem saveSubscription_keeps (item : SubItem) : Keeps SelectionFrame (saveSubscription item) := by
  unfold saveSubscription
  dsimp only
  split
  · exact keeps_throw selectionFrame _
  · split
    · exact keeps_throw selectionFrame _
    · apply keeps_bind selectionFrame (keeps_idOrNew selectionFrame _ _ (keeps_draw _))
      intro id
      apply keeps_bind selectionFrame (keeps_query selectionFrame _)
      intro maxSort
      refine keeps_bind selectionFrame (keeps_modify fun session => ?_) fun _ => ?_
      · exact SelectionFrame.of_same rfl rfl rfl rfl
      · refine keeps_bind selectionFrame (keeps_modify fun session => ?_) fun _ =>
          keeps_pure selectionFrame _
        split
        · exact ⟨⟨rfl, rfl, rfl, fun hnamed => hnamed⟩, rfl, rfl⟩
        · exact selectionFrame.refl session

theorem addSubscriptionFromUrl_keeps (url : String) :
    Keeps SelectionFrame (addSubscriptionFromUrl url) := by
  unfold addSubscriptionFromUrl
  dsimp only
  split
  · exact keeps_throw selectionFrame _
  · split
    · exact keeps_throw selectionFrame _
    · apply keeps_bind selectionFrame (keeps_query selectionFrame _)
      intro found
      cases found with
      | some existing => exact keeps_pure selectionFrame _
      | none => exact saveSubscription_keeps _

theorem deleteSubscription_frame (session : Session) (id : String) :
    ProfileFrame session (session.setDatabase (session.database.deleteSubscription id)) := by
  unfold Store.deleteSubscription
  split
  · have hframe := removeProfiles_frame session fun item => item.subscriptionId == some id
    exact ⟨hframe.routingConfig, hframe.activeRouting, hframe.routings, hframe.named⟩
  · exact profileFrame.refl session

theorem deleteSubscription_keeps (deleted : Nat) (id : String) :
    Keeps ProfileFrame (deleteSubscription deleted id) := by
  apply keeps_bind profileFrame (keeps_query profileFrame _)
  intro stored
  split
  · refine keeps_bind profileFrame (keeps_modify fun session => ?_) fun _ => ?_
    · exact deleteSubscription_frame session id
    · refine keeps_bind profileFrame (keeps_modify fun session => ?_) fun _ =>
        keeps_pure profileFrame _
      exact removeProfiles_frame session _
  · exact keeps_pure profileFrame _

theorem ensureActiveSubscription_keeps : Keeps SelectionFrame ensureActiveSubscription := by
  refine keeps_modify fun session => ?_
  dsimp only
  split
  · exact ⟨⟨rfl, rfl, rfl, id⟩, rfl, rfl⟩
  · exact selectionFrame.refl session

theorem deleteSubscriptions_selects (ids : List String) : Selects (deleteSubscriptions ids) := by
  apply selects_bind (keeps_foldlM profileFrame deleteSubscription_keeps ids _)
  intro deleted
  exact selects_ensure (ensureActiveSubscription_keeps.mono fun _ _ h => h.toProfileFrame)
    fun _ => keeps_pure selectionFrame _

end Subscriptions

section Imports

variable (parsers : ImportParsers)

theorem parseLine_keeps (subscriptionId : String) (state : ParsedImportText × List String)
    (line : String × Nat) : Keeps SelectionFrame (parseLine parsers subscriptionId state line) := by
  unfold parseLine
  dsimp only
  split
  · exact keeps_pure selectionFrame _
  · split
    · exact keeps_bind selectionFrame (addSubscriptionFromUrl_keeps _) fun _ =>
        keeps_pure selectionFrame _
    · split
      · exact keeps_pure selectionFrame _
      · split
        · exact keeps_pure selectionFrame _
        · exact keeps_pure selectionFrame _

theorem parseContent_keeps (subscriptionId : String) (parsed : ParsedImportText)
    (content : String) :
    Keeps SelectionFrame (parseContent parsers subscriptionId parsed content) :=
  keeps_bind selectionFrame
    (keeps_foldlM selectionFrame (parseLine_keeps parsers subscriptionId) _ _)
    fun _ => keeps_pure selectionFrame _

theorem parseImportText_keeps (text subscriptionId : String) :
    Keeps SelectionFrame (parseImportText parsers text subscriptionId) := by
  apply keeps_bind selectionFrame
    (keeps_foldlM selectionFrame (parseContent_keeps parsers subscriptionId) _ _)
  intro parsed
  split
  · exact keeps_throw selectionFrame _
  · exact keeps_pure selectionFrame _

theorem importProfile_keeps (subscriptionId : Option String) (state : ImportState)
    (profile : ProfileItem) : Keeps ProfileFrame (importProfile subscriptionId state profile) := by
  apply keeps_bind profileFrame (keeps_get profileFrame)
  intro session
  dsimp only
  split
  · exact keeps_bind profileFrame ((saveProfile_keeps _).adaptError _) fun _ =>
      keeps_pure profileFrame _
  · exact keeps_bind profileFrame ((saveProfile_keeps _).adaptError _) fun _ =>
      keeps_pure profileFrame _

theorem applyImport_selects (subscriptionId : Option String)
    (oldProfiles profiles : List ProfileItem) :
    Selects (applyImport subscriptionId oldProfiles profiles) := by
  apply selects_bind (keeps_query profileFrame _)
  intro existingProfiles
  apply selects_bind (keeps_foldlM profileFrame (importProfile_keeps subscriptionId) profiles _)
  intro state
  apply selects_bind (keeps_deleteMany _)
  intro removedDuplicates
  exact selects_ensure (keeps_deleteMany _) fun _ => keeps_pure selectionFrame _

theorem importParsed_selects (subscriptionId : Option String) (regex : Option (String → Bool))
    (oldProfiles : List ProfileItem) (parsedImport : ParsedImportText) :
    Selects (importParsed subscriptionId regex oldProfiles parsedImport) := by
  unfold importParsed
  dsimp only
  split
  · exact selects_then ensureActiveProfile_selects fun _ => keeps_pure selectionFrame _
  · exact selects_then (applyImport_selects _ _ _) fun _ => keeps_pure selectionFrame _

theorem importProfilesFromText_selects (text : String) (subscriptionId : Option String) :
    Selects (importProfilesFromText parsers text subscriptionId) := by
  apply selects_bind (keeps_query profileFrame _)
  intro subItem
  apply selects_bind (keeps_fromExcept profileFrame _)
  intro regex
  apply selects_bind (keeps_query profileFrame _)
  intro oldProfiles
  apply selects_bind ((parseImportText_keeps parsers _ _).mono fun _ _ h => h.toProfileFrame)
  intro parsedImport
  exact importParsed_selects _ _ _ _

def NotEmptyHanded (error : SubscriptionManagerError) : Prop := error ≠ .noImportableProfiles

theorem deleteMany_raises (indexIds : List String) :
    Raises NotEmptyHanded (deleteMany indexIds) := by
  apply raises_foldlM
  intro deleted indexId before error after hrun
  cases hrun

theorem ensureActiveProfile_raises : Raises NotEmptyHanded ensureActiveProfile := by
  intro before error after hrun
  rw [ensureActiveProfile, outcome_bind, outcome_get] at hrun
  dsimp only at hrun
  split at hrun <;> cases hrun

theorem importProfile_raises (subscriptionId : Option String) (state : ImportState)
    (profile : ProfileItem) : Raises NotEmptyHanded
    (importProfile subscriptionId state profile) := by
  have hsave (profile : ProfileItem) :
      Raises NotEmptyHanded (adaptError .profile (saveProfile profile)) :=
    raises_adaptError _ _ fun error => by simp [NotEmptyHanded]
  refine raises_bind (raises_get _) fun session => ?_
  dsimp only
  split
  · exact raises_bind (hsave _) fun _ => raises_pure _ _
  · exact raises_bind (hsave _) fun _ => raises_pure _ _

theorem applyImport_raises (subscriptionId : Option String)
    (oldProfiles profiles : List ProfileItem) :
    Raises NotEmptyHanded (applyImport subscriptionId oldProfiles profiles) := by
  refine raises_bind (fun before error after hrun => by cases hrun) fun existingProfiles => ?_
  refine raises_bind (raises_foldlM (importProfile_raises subscriptionId) _ _) fun state => ?_
  refine raises_bind (deleteMany_raises _) fun _ => ?_
  refine raises_bind (deleteMany_raises _) fun _ => ?_
  exact raises_bind ensureActiveProfile_raises fun _ => raises_pure _ _

theorem importParsed_raises (subscriptionId : Option String) (regex : Option (String → Bool))
    (oldProfiles : List ProfileItem) (parsedImport : ParsedImportText) :
    Raises NotEmptyHanded (importParsed subscriptionId regex oldProfiles parsedImport) := by
  unfold importParsed
  dsimp only
  split
  · exact raises_bind ensureActiveProfile_raises fun _ => raises_pure _ _
  · exact raises_bind (applyImport_raises _ _ _) fun _ => raises_pure _ _

theorem importProfilesFromText_emptyHanded {text : String} {subscriptionId : Option String}
    {before after : Session}
    (hrun : outcome (importProfilesFromText parsers text subscriptionId) before =
      (.error .noImportableProfiles, after)) : SelectionFrame before after := by
  rcases error_of_bind hrun with hread | ⟨subItem, started, hread, hfiltering⟩
  · cases hread
  obtain ⟨-, rfl⟩ := yields_query _ _ _ _ hread
  rcases error_of_bind hfiltering with hfilter | ⟨regex, filtered, hfilter, hlisting⟩
  · exact (keeps_fromExcept selectionFrame _).outcome_frame hfilter
  have hfiltered : SelectionFrame started filtered :=
    (keeps_fromExcept selectionFrame _).outcome_frame hfilter
  rcases error_of_bind hlisting with hlist | ⟨oldProfiles, listed, hlist, hparsing⟩
  · cases hlist
  obtain ⟨-, rfl⟩ := yields_query _ _ _ _ hlist
  rcases error_of_bind hparsing with hparse | ⟨parsedImport, parsed, hparse, happly⟩
  · exact selectionFrame.trans hfiltered
      ((parseImportText_keeps parsers text _).outcome_frame hparse)
  · -- past this point an import fails for other reasons only
    exact absurd rfl (importParsed_raises _ _ _ _ _ _ _ happly)

/-- What the import of one downloaded text leaves behind, however it ended, when the update goes
on after it. -/
theorem attemptImport_yields (text : String) (subscriptionId : Option String) :
    Yields (attempt (importProfilesFromText parsers text subscriptionId)) fun before result after =>
      (∀ imported, result = .ok imported → ProfileFrame before after ∧
        (Named before.database → ProfileSelected after.database after.config)) ∧
      (result = .error .noImportableProfiles → SelectionFrame before after) := by
  intro before result after hrun
  rw [outcome_attempt] at hrun
  rcases himport : outcome (importProfilesFromText parsers text subscriptionId) before with
    ⟨failed | imported, between⟩
  · rw [himport] at hrun
    cases hrun
    refine ⟨fun imported hok => (by cases hok), fun hfailed => ?_⟩
    cases hfailed
    exact importProfilesFromText_emptyHanded parsers himport
  · rw [himport] at hrun
    cases hrun
    exact ⟨fun _ _ => importProfilesFromText_selects parsers _ _ _ _ _ himport,
      fun hfailed => by cases hfailed⟩

theorem applyPreparedImport_keeps (result : SubscriptionUpdateResult)
    (prepared : PreparedSubscriptionImport) :
    KeepsSelected (applyPreparedImport parsers result prepared) := by
  refine keepsSelected_bind (keepsSelected_of_frame (keeps_query selectionFrame _))
    fun current => ?_
  split
  · exact keepsSelected_of_frame (keeps_pure selectionFrame _)
  · intro before updated after hrun
    obtain ⟨result, between, hattempt, hrest⟩ := ok_of_bind hrun
    obtain ⟨hok, hempty⟩ := attemptImport_yields parsers _ _ _ _ _ hattempt
    split at hrest
    · rename_i imported
      have hpost := hok imported rfl
      have hsame : after = between := by
        split at hrest <;> cases hrest <;> rfl
      rw [hsame]
      exact ⟨hpost.1, fun hnamed _ => hpost.2 hnamed⟩
    · cases hrest
      have hframe := hempty rfl
      exact ⟨hframe.toProfileFrame, fun _ hselected => hselected.of_selectionFrame hframe⟩
    · cases hrest

theorem applyPreparedSubscriptionUpdate_keeps (prepared : PreparedSubscriptionUpdate) :
    KeepsSelected (applyPreparedSubscriptionUpdate parsers prepared) :=
  keepsSelected_foldlM (applyPreparedImport_keeps parsers) _ _

end Imports

end SubscriptionSelection
