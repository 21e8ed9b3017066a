import VoyaVPN.ImportText

/-! What an import that succeeds has done: its text is read, the profiles that are left of it are
merged into the table, and what the subscription had besides is deleted. -/
namespace ImportOutcome

open Entities AppConfig ConfigMutation VoyaStore ActionRules ManagerSession ProfileNormalize
open ProfileManager SubscriptionManager ProfileSelection ImportLoop ImportText RecordMerge

section Survivors

variable (parsers : ImportParsers) (text : String) (subscriptionId : Option String)
  (session : Session)

def subscriptionFilter : Option String :=
  ((trimOption subscriptionId).bind session.database.rows.subscriptions.get).bind (·.filter)

def importRegex : Option (String → Bool) :=
  (compileFilter parsers (subscriptionFilter subscriptionId session)).toOption.getD none

def parsedText : ParsedImportText :=
  readText parsers ((trimOption subscriptionId).getD "") text

/-- What the filter of the subscription leaves of the parsed profiles. -/
def retained : List ProfileItem :=
  retainMatching (importRegex parsers subscriptionId session)
    (parsedText parsers text subscriptionId).profiles

/-- What is left of them without those that are the same as an earlier one. -/
def survivors : List ProfileItem :=
  dedupeProfiles ((retained parsers text subscriptionId session).map
    (assignSubscription (trimOption subscriptionId)))

end Survivors

theorem mem_dedupe_foldl {kept profiles : List ProfileItem} {profile : ProfileItem}
    (hprofile : profile ∈ profiles.foldl dedupeStep kept) :
    profile ∈ kept ∨ profile ∈ profiles := by
  induction profiles generalizing kept with
  | nil => exact Or.inl hprofile
  | cons head rest ih =>
    rcases ih hprofile with hkept | hrest
    · rw [dedupeStep] at hkept
      split at hkept
      · exact Or.inl hkept
      · rcases List.mem_append.mp hkept with hkept | hhead
        · exact Or.inl hkept
        · exact Or.inr (by simp [List.mem_singleton.mp hhead])
    · exact Or.inr (List.mem_cons_of_mem _ hrest)

section Survivors

variable {parsers : ImportParsers} {text : String} {subscriptionId : Option String}
  {session : Session}

theorem mem_survivors {profile : ProfileItem}
    (hprofile : profile ∈ survivors parsers text subscriptionId session) :
    ∃ parsed ∈ retained parsers text subscriptionId session,
      profile = assignSubscription (trimOption subscriptionId) parsed := by
  rcases mem_dedupe_foldl hprofile with hnone | hmap
  · cases hnone
  · obtain ⟨parsed, hparsed, rfl⟩ := List.mem_map.mp hmap
    exact ⟨parsed, hparsed, rfl⟩

theorem survivors_normalized :
    ∀ profile ∈ survivors parsers text subscriptionId session,
      normalizeProfile profile = profile := by
  intro profile hprofile
  obtain ⟨parsed, _, rfl⟩ := mem_survivors hprofile
  exact normalizeProfile_normalizeProfile _

end Survivors

/-- How an import that left something to save went on after its text was read. -/
structure ImportRun (profiles : List ProfileItem) (subscriptionId : Option String)
    (before between after : Session) (result : ImportProfilesResult) (known : List ProfileItem)
    (final : RecordMerge.State profileKind) : Prop where
  looked : ∀ row, row ∈ known ↔ row ∈ before.database.rows.profiles.rows
  run : Run profileKind (drawnId before)
    (initial profileKind before.database.rows.profiles known between.drawn) profiles final
  imported : result.importedIndexIds = final.imported
  updated : result.updatedIndexIds = final.updated
  count : result.imported = saturateU32 final.imported.length
  updatedCount : result.updated = saturateU32 final.updated.length
  applied : Applied subscriptionId (profilesBeforeImport subscriptionId before.database) between
    after final
  admitted : ∀ profile ∈ profiles, between.database.admitsProfile profile = true

section Outcome

variable {parsers : ImportParsers} {text : String} {subscriptionId : Option String}
  {before after : Session} {result : ImportProfilesResult}

def summaryOf (parsers : ImportParsers) (text : String) (subscriptionId : Option String)
    (session : Session) : ImportProfilesResult :=
  importSummary (trimOption subscriptionId) (parsedText parsers text subscriptionId)
    (retained parsers text subscriptionId session) (survivors parsers text subscriptionId session)

theorem import_parts
    (hrun : outcome (importProfilesFromText parsers text subscriptionId) before =
      (.ok result, after)) :
    ∃ between, outcome (parseImportText parsers text ((trimOption subscriptionId).getD "")) before =
        (.ok (parsedText parsers text subscriptionId), between) ∧
      (∃ regex, compileFilter parsers (subscriptionFilter subscriptionId before) = .ok regex) ∧
      outcome (importParsed (trimOption subscriptionId)
        (importRegex parsers subscriptionId before)
        (profilesBeforeImport (trimOption subscriptionId) before.database)
        (parsedText parsers text subscriptionId)) between = (.ok result, after) := by
  obtain ⟨subItem, started, hsub, hfilters⟩ := ok_of_bind hrun
  obtain ⟨hitem, hstarted⟩ := yields_query _ _ _ _ hsub
  obtain ⟨regex, filtered, hregex, hlists⟩ := ok_of_bind hfilters
  rw [outcome_fromExcept, hitem, hstarted] at hregex
  have hcompiled : compileFilter parsers (subscriptionFilter subscriptionId before) = .ok regex :=
    congrArg Prod.fst hregex
  have hfiltered : before = filtered := congrArg Prod.snd hregex
  obtain ⟨oldProfiles, listed, hlist, hparses⟩ := ok_of_bind hlists
  obtain ⟨hold, hlisted⟩ := yields_query _ _ _ _ hlist
  obtain ⟨parsed, between, hparse, happly⟩ := ok_of_bind hparses
  rw [hlisted, ← hfiltered] at hparse
  rw [← hfiltered] at hold
  obtain ⟨hparsed, _⟩ := parseImportText_yields _ _ _ _ hparse
  have hsame : importRegex parsers subscriptionId before = regex := by
    rw [importRegex, hcompiled]
    rfl
  rw [← hsame, hold, hparsed] at happly
  rw [hparsed] at hparse
  exact ⟨between, hparse, ⟨regex, hcompiled⟩, happly⟩

theorem import_of_read {between : Session} {regex : Option (String → Bool)}
    (hregex : compileFilter parsers (subscriptionFilter subscriptionId before) = .ok regex)
    (hparse : outcome (parseImportText parsers text ((trimOption subscriptionId).getD "")) before =
      (.ok (parsedText parsers text subscriptionId), between)) :
    outcome (importProfilesFromText parsers text subscriptionId) before =
      outcome (importParsed (trimOption subscriptionId) regex
        (profilesBeforeImport (trimOption subscriptionId) before.database)
        (parsedText parsers text subscriptionId)) between := by
  have hitem : outcome (query fun store => (trimOption subscriptionId).bind
      store.rows.subscriptions.get : Action Session SubscriptionManagerError _) before =
        (.ok ((trimOption subscriptionId).bind before.database.rows.subscriptions.get),
          before) := rfl
  have hfilter : outcome (fromExcept (compileFilter parsers
      (((trimOption subscriptionId).bind before.database.rows.subscriptions.get).bind (·.filter))) :
        Action Session SubscriptionManagerError _) before = (.ok regex, before) := by
    rw [outcome_fromExcept]
    exact congrArg (·, before) hregex
  have hold : outcome (query (profilesBeforeImport (trimOption subscriptionId)) :
      Action Session SubscriptionManagerError _) before =
        (.ok (profilesBeforeImport (trimOption subscriptionId) before.database), before) := rfl
  unfold importProfilesFromText
  dsimp only
  rw [outcome_bind_ok hitem, outcome_bind_ok hfilter, outcome_bind_ok hold, outcome_bind_ok hparse]

/-- The target of an import is no id or one without surrounding white space. -/
theorem target_blank_or_named (subscriptionId : Option String) :
    (trimOption subscriptionId).getD "" = "" ∨
      RustText.trim ((trimOption subscriptionId).getD "") ≠ "" := by
  cases subscriptionId with
  | none => exact Or.inl rfl
  | some id =>
    by_cases hblank : RustText.trim id = ""
    · exact Or.inl (by simp [trimOption, hblank])
    · exact Or.inr (by simp [trimOption, hblank, RustText.trim_trim])

/-- An import either has nothing to save and saves nothing, or it merges what is left of its text
into the table. -/
theorem import_cases (hnamed : Named before.database)
    (hrun : outcome (importProfilesFromText parsers text subscriptionId) before =
      (.ok result, after)) :
    ∃ between, outcome (parseImportText parsers text ((trimOption subscriptionId).getD "")) before =
        (.ok (parsedText parsers text subscriptionId), between) ∧ ReadFrame before between ∧
      (result.parsed = (summaryOf parsers text subscriptionId before).parsed ∧
        result.filtered = (summaryOf parsers text subscriptionId before).filtered ∧
        result.deduped = (summaryOf parsers text subscriptionId before).deduped) ∧
      (survivors parsers text subscriptionId before = [] ∧
          result = summaryOf parsers text subscriptionId before ∧ SaveFrame between after ∨
        survivors parsers text subscriptionId before ≠ [] ∧ ∃ known final,
          ImportRun (survivors parsers text subscriptionId before) (trimOption subscriptionId)
            before between after result known final) := by
  obtain ⟨between, hparse, _, happly⟩ := import_parts hrun
  obtain ⟨_, hframe, _, _⟩ := parseImportText_yields _ _ _ _ hparse
  refine ⟨between, hparse, hframe, ?_⟩
  unfold importParsed at happly
  dsimp only at happly
  split at happly
  · rename_i hnone
    obtain ⟨changed, ensured, hensured, hreturn⟩ := ok_of_bind happly
    cases hreturn
    exact ⟨⟨rfl, rfl, rfl⟩,
      Or.inl ⟨hnone, rfl, ensureActiveProfile_saveFrame.outcome_frame hensured⟩⟩
  · rename_i hsome
    obtain ⟨⟨state, duplicates, existing⟩, applied, happlied, hreturn⟩ := ok_of_bind happly
    have hnamedBetween : Named between.database := by
      rw [Named, hframe.profiles]
      exact hnamed
    obtain ⟨known, final, hknown, hruns, himported, hupdated, hdone, hadmits⟩ :=
      applyImport_yields survivors_normalized hnamedBetween happlied
    have hdrawn : drawnId between = drawnId before := by
      funext place
      rw [drawnId, drawnId, hframe.readings]
    rw [hframe.profiles] at hknown
    rw [hframe.profiles, hdrawn] at hruns
    cases hreturn
    refine ⟨⟨rfl, rfl, rfl⟩,
      Or.inr ⟨hsome, known, final, hknown, hruns, himported, hupdated, ?_, ?_, hdone, hadmits⟩⟩
    · rw [← himported]
    · rw [← hupdated]

end Outcome

section Runs

variable {profiles : List ProfileItem} {subscriptionId : Option String}
  {before between after : Session} {result : ImportProfilesResult} {known : List ProfileItem}
  {final : RecordMerge.State profileKind}

/-- The records that were merged have keys when none of them clashes with a row. -/
theorem ImportRun.merged
    (h : ImportRun profiles subscriptionId before between after result known final)
    (hread : ReadFrame before between)
    (hkeys : (∃ profile ∈ profiles,
        ¬Matched profileKind before.database.rows.profiles profile) →
      NoClash profileKind before.database.rows.profiles profiles ∧
        Fresh profileKind (drawnId before) before.database.rows.profiles profiles before.drawn
          after.drawn) :
    ∃ assign, Merged before.database.rows.profiles (drawnId before) between.drawn profiles profiles
      assign final := by
  have hlow := hread.drawn_le
  have hhigh : final.drawn ≤ after.drawn := Nat.le_of_eq h.applied.drawn.symm
  refine (merged_initial before.database.rows.profiles profiles h.looked between.drawn
    fun _ => "").run h.run rfl (Nat.le_refl _) hhigh fun hmatched => ?_
  obtain ⟨hclash, hfresh⟩ := hkeys hmatched
  exact ⟨hclash, hfresh.mono hlow⟩

theorem mem_profilesBeforeImport {row : ProfileItem}
    (hrow : row ∈ profilesBeforeImport subscriptionId before.database) :
    row ∈ before.database.rows.profiles.rows := by
  unfold profilesBeforeImport at hrow
  split at hrow
  · exact ((Store.mem_listBySubscriptionId _ _ _).mp hrow).1
  · cases hrow

/-- The rows of the subscription that the import did not save again are stale. -/
theorem stale_iff {row : ProfileItem} (hrow : row ∈ before.database.rows.profiles.rows)
    (imported : List String) :
    row.indexId ∈ staleIndexIds (profilesBeforeImport subscriptionId before.database)
        subscriptionId imported ↔
      row.indexId ∉ imported ∧
        subscriptionId.isSome = true ∧ row.subscriptionId = subscriptionId := by
  rw [mem_staleIndexIds]
  constructor
  · rintro ⟨hsome, hnew, old, hold, hsame, hid⟩
    have hrows : old = row :=
      before.database.rows.profiles.eq_of_key (mem_profilesBeforeImport hold) hrow hid
    exact ⟨hnew, hsome, hrows ▸ hsame⟩
  · rintro ⟨hnew, hsome, hsame⟩
    refine ⟨hsome, hnew, row, ?_, hsame, rfl⟩
    unfold profilesBeforeImport
    rw [if_pos hsome]
    refine (Store.mem_listBySubscriptionId _ _ _).mpr ⟨hrow, ?_⟩
    rw [← hsame, Store.inSubscription]
    cases hfilter : row.subscriptionId.filter (· ≠ "") with
    | none => rfl
    | some id => simp [(Option.filter_eq_some_iff.mp hfilter).1]

/-- The rows after an import: what it imported, and of the rows before it those that are not of its
subscription, have data of no imported profile and an id that none took. -/
theorem ImportRun.mem_rows
    (h : ImportRun profiles subscriptionId before between after result known final)
    {gen : Nat → String} {low : Nat} {assign : ProfileData → String}
    (hinv : Merged before.database.rows.profiles gen low profiles profiles assign final)
    (row : ProfileItem) :
    row ∈ after.database.rows.profiles.rows ↔
      (∃ profile, LastOf profileKind profiles profile ∧
        row = { profile with indexId := assign (dataOf profile) }) ∨
      row ∈ before.database.rows.profiles.rows ∧
        (∀ profile ∈ profiles, dataOf profile ≠ dataOf row) ∧
        row.indexId ∉ result.importedIndexIds ∧
        ¬(subscriptionId.isSome = true ∧ row.subscriptionId = subscriptionId) := by
  rw [h.applied.rows, hinv.mem_left, h.imported]
  constructor
  · rintro ⟨hwritten | ⟨hrow, hdata, hkey⟩, hstays⟩
    · exact Or.inl hwritten
    · exact Or.inr ⟨hrow, hdata, hkey, fun hother => hstays ((stale_iff hrow _).mpr ⟨hkey, hother⟩)⟩
  · rintro (⟨profile, hlast, rfl⟩ | ⟨hrow, hdata, hkey, hother⟩)
    · refine ⟨Or.inl ⟨profile, hlast, rfl⟩, ?_⟩
      rw [mem_staleIndexIds]
      rintro ⟨_, hnew, _⟩
      apply hnew
      obtain ⟨earlier, later, hsplit, _⟩ := hlast
      rw [hinv.imported]
      exact List.mem_map.mpr ⟨profile, by simp [hsplit], rfl⟩
    · exact ⟨Or.inr ⟨hrow, hdata, hkey⟩, fun hstale => hother ((stale_iff hrow _).mp hstale).2⟩

end Runs

end ImportOutcome
