import VoyaVPN.BundleImport

/-! A text imported twice: the second import finds what the first one stored unless the ids of a
bundle clash with stored ones. -/
namespace ImportRepeat

open Entities AppConfig ConfigMutation VoyaStore ActionRules ManagerSession ProfileNormalize
open ProfileManager SubscriptionManager ProfileSelection ImportLoop ImportText ImportOutcome
open RecordMerge BundleImport ProfileBundle

section Reading

variable {parsers : ImportParsers} {text : String} {subscriptionId : Option String}
  {before between after : Session}

theorem reading_for_subscription
    (htarget : RustText.trim ((trimOption subscriptionId).getD "") ≠ "")
    (hparse : outcome (parseImportText parsers text ((trimOption subscriptionId).getD "")) before =
      (.ok (parsedText parsers text subscriptionId), between)) : between = before := by
  obtain ⟨_, _, hsome, _⟩ := parseImportText_yields _ _ _ _ hparse
  have hstored : ∀ content ∈ importContents parsers text,
      ContentStored ((trimOption subscriptionId).getD "") content before := by
    intro content _ line _ hblank
    rw [hblank] at htarget
    exact absurd (by decide) htarget
  have hagain := parseImportText_again (Or.inr htarget) hstored hsome
  rw [hagain] at hparse
  exact (congrArg Prod.snd hparse).symm

theorem filter_stays
    (hparse : outcome (parseImportText parsers text ((trimOption subscriptionId).getD "")) before =
      (.ok (parsedText parsers text subscriptionId), between)) (hframe :
        ImportFrame between after) :
    subscriptionFilter subscriptionId after = subscriptionFilter subscriptionId before := by
  rcases target_blank_or_named subscriptionId with hblank | hnamed
  · have hnone : trimOption subscriptionId = none := by
      cases hsome : trimOption subscriptionId with
      | none => rfl
      | some id =>
        rw [hsome, Option.getD_some] at hblank
        exact absurd hblank (trimOption_ne_empty hsome)
    rw [subscriptionFilter, subscriptionFilter, hnone]
    rfl
  · rw [subscriptionFilter, subscriptionFilter, hframe.subscriptions,
      reading_for_subscription hnamed hparse]

theorem survivors_stay
    (hparse : outcome (parseImportText parsers text ((trimOption subscriptionId).getD "")) before =
      (.ok (parsedText parsers text subscriptionId), between)) (hframe :
        ImportFrame between after) :
    survivors parsers text subscriptionId after = survivors parsers text subscriptionId before := by
  rw [survivors, survivors, retained, retained, importRegex, importRegex,
    filter_stays hparse hframe]

/-- The text can be read again, with what the first reading stored in place. -/
theorem read_again
    (hparse : outcome (parseImportText parsers text ((trimOption subscriptionId).getD "")) before =
      (.ok (parsedText parsers text subscriptionId), between)) (hframe : ImportFrame between after)
    (hfresh : FreshSubscriptions before between.drawn) :
    outcome (parseImportText parsers text ((trimOption subscriptionId).getD "")) after =
      (.ok (parsedText parsers text subscriptionId), after) := by
  obtain ⟨_, _, hsome, hstored⟩ := parseImportText_yields _ _ _ _ hparse
  refine parseImportText_again (target_blank_or_named subscriptionId) ?_ hsome
  intro content hcontent line hline hblank hhttp
  obtain ⟨item, hitem, hurl⟩ := hstored hfresh content hcontent line hline hblank hhttp
  exact ⟨item, hframe.subscriptions ▸ hitem, hurl⟩

end Reading

section Runs

variable {profiles : List ProfileItem} {subscriptionId : Option String}
  {before between after : Session} {result : ImportProfilesResult} {known : List ProfileItem}
  {final : RecordMerge.State profileKind}

theorem ImportRun.named
    (h : ImportRun profiles subscriptionId before between after result known final)
    (hprofiles : ∀ profile ∈ profiles, normalizeProfile profile = profile)
    (hnamed : Named before.database) : Named after.database := by
  have hown : ∀ profile ∈ profiles, ∀ indexId, profileKind.own profile = some indexId →
      indexId ≠ "" ∧ RustText.trim indexId = indexId := by
    intro profile hprofile indexId hown
    by_cases hblank : profile.indexId = ""
    · rw [own_of_blank hblank] at hown
      cases hown
    · rw [show profileKind.own profile = some profile.indexId from if_neg hblank] at hown
      cases hown
      exact ⟨hblank, indexId_trimmed (hprofiles profile hprofile)⟩
  have hkeys := h.run.keys (fun indexId => indexId ≠ "" ∧ RustText.trim indexId = indexId)
    (fun place => ⟨drawnId_ne_empty _ _, idText_trim _⟩) hown
    (fun row hrow => hnamed row ((h.looked row).mp hrow)) hnamed
  intro row hrow
  exact hkeys row ((h.applied.rows row).mp hrow).1.1

end Runs

section Repetition

variable {parsers : ImportParsers} {text : String} {subscriptionId : Option String}
  {before between after last : Session} {result again : ImportProfilesResult}

structure SameImport (after last : Session) (result again : ImportProfilesResult) : Prop where
  rows : ∀ row, row ∈ last.database.rows.profiles.rows ↔ row ∈ after.database.rows.profiles.rows
  imported : again.importedIndexIds = result.importedIndexIds
  updated : again.updatedIndexIds = again.importedIndexIds
  counts : again.updated = again.imported

def Repeats (parsers : ImportParsers) (text : String) (subscriptionId : Option String)
    (after : Session) (result : ImportProfilesResult) : Prop :=
  Returns (importProfilesFromText parsers text subscriptionId) after fun again last =>
    SameImport after last result again

theorem import_again_succeeds {regex : Option (String → Bool)}
    (hparse : outcome (parseImportText parsers text ((trimOption subscriptionId).getD "")) after =
      (.ok (parsedText parsers text subscriptionId), after))
    (hregex : compileFilter parsers (subscriptionFilter subscriptionId after) = .ok regex)
    (hnamed : Named after.database)
    (hadmits : ∀ profile ∈ survivors parsers text subscriptionId after,
      after.database.admitsProfile profile = true) :
    ∃ again last, outcome (importProfilesFromText parsers text subscriptionId) after =
      (.ok again, last) := by
  have hcompiled : importRegex parsers subscriptionId after = regex := by
    rw [importRegex, hregex]
    rfl
  rw [import_of_read hregex hparse, ← hcompiled]
  unfold importParsed
  dsimp only
  split
  · obtain ⟨changed, ensured, hensured⟩ :=
      @ensureActiveProfile_succeeds SubscriptionManagerError after
    rw [outcome_bind_ok hensured]
    exact ⟨_, _, rfl⟩
  · obtain ⟨state, duplicates, existing, applied, happlied⟩ :=
      @applyImport_succeeds (trimOption subscriptionId)
        (profilesBeforeImport (trimOption subscriptionId) after.database)
        (survivors parsers text subscriptionId after) after survivors_normalized hnamed hadmits
    have happly : outcome (applyImport (trimOption subscriptionId)
        (profilesBeforeImport (trimOption subscriptionId) after.database)
        (dedupeProfiles ((retainMatching (importRegex parsers subscriptionId after)
          (parsedText parsers text subscriptionId).profiles).map
            (assignSubscription (trimOption subscriptionId))))) after =
        (.ok (state, duplicates, existing), applied) := happlied
    rw [outcome_bind_ok happly]
    exact ⟨_, _, rfl⟩

theorem ImportRun.repeated {profiles : List ProfileItem} {target : Option String}
    {between reached : Session} {known found : List ProfileItem}
    {final finalAgain : RecordMerge.State profileKind}
    (h : ImportRun profiles target before between after result known final)
    (hagain : ImportRun profiles target after reached last again found finalAgain)
    {gen genAgain : Nat → String} {low lowAgain : Nat} {assign assigned : ProfileData → String}
    (hinv : Merged before.database.rows.profiles gen low profiles profiles assign final)
    (hinvAgain : Merged after.database.rows.profiles genAgain lowAgain profiles profiles assigned
      finalAgain)
    (hmatched : ∀ profile ∈ profiles, Matched profileKind after.database.rows.profiles profile) :
    SameImport after last result again := by
  have hrows : ∀ row ∈ after.database.rows.profiles.rows,
      (∃ profile ∈ profiles, dataOf row = dataOf profile) → ∃ profile,
        LastOf profileKind profiles profile ∧
          row = { profile with indexId := assign (dataOf profile) } := by
    rintro row hrow ⟨profile, hprofile, hdata⟩
    rcases (h.mem_rows hinv row).mp hrow with hlast | ⟨_, hother, _⟩
    · exact hlast
    · exact absurd hdata.symm (hother profile hprofile)
  obtain ⟨himported, hupdated, hassigned⟩ := hinv.again hrows hmatched hinvAgain
  have hids : again.importedIndexIds = result.importedIndexIds := by
    rw [hagain.imported, h.imported, himported]
  have hupdates : again.updatedIndexIds = again.importedIndexIds := by
    rw [hagain.updated, hagain.imported, hupdated, himported]
  refine ⟨fun row => ?_, hids, hupdates, ?_⟩
  · rw [hagain.mem_rows hinvAgain]
    constructor
    · rintro (⟨profile, hlast, rfl⟩ | ⟨hrow, _⟩)
      · refine (h.mem_rows hinv _).mpr (Or.inl ⟨profile, hlast, ?_⟩)
        obtain ⟨earlier, later, hsplit, _⟩ := hlast
        have hkey : assigned (dataOf profile) = assign (dataOf profile) :=
          hassigned profile (by simp [hsplit])
        rw [hkey]
      · exact hrow
    · intro hrow
      rcases (h.mem_rows hinv row).mp hrow with ⟨profile, hlast, hsame⟩ | ⟨_, hdata, hkey, hother⟩
      · left
        refine ⟨profile, hlast, ?_⟩
        obtain ⟨earlier, later, hsplit, _⟩ := hlast
        have hkey : assigned (dataOf profile) = assign (dataOf profile) :=
          hassigned profile (by simp [hsplit])
        rw [hkey, hsame]
      · right
        rw [hids]
        exact ⟨hrow, hdata, hkey, hother⟩
  · rw [hagain.updatedCount, hagain.count, hupdated, himported]

theorem repeats_of_noClash (hnamed : Named before.database)
    (hrun : outcome (importProfilesFromText parsers text subscriptionId) before =
      (.ok result, after))
    (hfresh : Fresh profileKind (drawnId before) before.database.rows.profiles
      (survivors parsers text subscriptionId before) before.drawn after.drawn)
    (hsubscriptions : FreshSubscriptions before after.drawn)
    (hclash : NoClash profileKind before.database.rows.profiles
      (survivors parsers text subscriptionId before)) :
    Repeats parsers text subscriptionId after result := by
  obtain ⟨_, _, ⟨regex, hregex⟩, _⟩ := import_parts hrun
  obtain ⟨between, hparse, hread, _, hcases⟩ := import_cases hnamed hrun
  have hframes : ImportFrame between after ∧ between.drawn ≤ after.drawn := by
    rcases hcases with ⟨_, _, hframe⟩ | ⟨_, known, final, h⟩
    · exact ⟨hframe.toImportFrame, Nat.le_of_eq hframe.drawn.symm⟩
    · exact ⟨h.applied.toImportFrame, h.applied.drawn ▸ h.run.drawn_le⟩
  obtain ⟨hframe, hdrawn⟩ := hframes
  have hsurvivors := survivors_stay hparse hframe
  have hparseAgain := read_again hparse hframe (hsubscriptions.mono hdrawn)
  rw [← filter_stays hparse hframe] at hregex
  rcases hcases with ⟨hnone, hsummary, hsaved⟩ | ⟨hsome, known, final, h⟩
  · have hnamedAfter : Named after.database := by
      rw [Named, hsaved.profiles, hread.profiles]
      exact hnamed
    obtain ⟨again, last, hagain⟩ := import_again_succeeds hparseAgain hregex hnamedAfter
      (by rw [hsurvivors, hnone]; simp)
    obtain ⟨reached, _, hreadAgain, _, ⟨_, hsummaryAgain, hsavedAgain⟩ | ⟨hsome, _⟩⟩ :=
      import_cases hnamedAfter hagain
    · refine ⟨again, last, hagain, fun row => ?_, ?_, ?_, ?_⟩
      · rw [hsavedAgain.profiles, hreadAgain.profiles]
      · rw [hsummaryAgain, hsummary]
        rfl
      · rw [hsummaryAgain]
        rfl
      · rw [hsummaryAgain]
        rfl
    · rw [hsurvivors] at hsome
      exact absurd hnone hsome
  · have hnamedAfter := ImportRun.named h survivors_normalized hnamed
    obtain ⟨assign, hinv⟩ := h.merged hread fun _ => ⟨hclash, hfresh⟩
    have hmatched : ∀ profile ∈ survivors parsers text subscriptionId before,
        Matched profileKind after.database.rows.profiles profile := by
      intro profile hprofile
      have hexists : ∃ final, LastOf profileKind (survivors parsers text subscriptionId before)
          final ∧ dataOf final = dataOf profile := exists_lastOf hprofile
      obtain ⟨lastOne, hlast, hdata⟩ := hexists
      exact ⟨_, (h.mem_rows hinv _).mpr (Or.inl ⟨lastOne, hlast, rfl⟩), hdata⟩
    obtain ⟨again, last, hagain⟩ := import_again_succeeds hparseAgain hregex hnamedAfter (by
      rw [hsurvivors]
      intro profile hprofile
      rw [admitsProfile_of_frame hframe]
      exact h.admitted profile hprofile)
    obtain ⟨reached, _, hreadAgain, _, ⟨hnone, _⟩ | ⟨_, found, finalAgain, hrunAgain⟩⟩ :=
      import_cases hnamedAfter hagain
    · rw [hsurvivors] at hnone
      exact absurd hnone hsome
    · rw [hsurvivors] at hrunAgain
      obtain ⟨assigned, hinvAgain⟩ := hrunAgain.merged hreadAgain (by
        rintro ⟨profile, hprofile, hnone⟩
        exact absurd (hmatched profile hprofile) hnone)
      exact ⟨again, last, hagain, ImportRun.repeated h hrunAgain hinv hinvAgain hmatched⟩

theorem noClash_of_repeats (hnamed : Named before.database)
    (hrun : outcome (importProfilesFromText parsers text subscriptionId) before =
      (.ok result, after))
    (htwins : NoTwinClash profileKind before.database.rows.profiles
      (survivors parsers text subscriptionId before))
    (hrepeats : Repeats parsers text subscriptionId after result) :
    NoClash profileKind before.database.rows.profiles
      (survivors parsers text subscriptionId before) := by
  obtain ⟨again, last, hagain, hsame⟩ := hrepeats.returned
  obtain ⟨between, hparse, hread, _, ⟨hnone, _⟩ | ⟨hsome, known, final, h⟩⟩ :=
    import_cases hnamed hrun
  · rw [hnone]
    exact noClash_of_blank (by simp)
  · have hsurvivors := survivors_stay hparse h.applied.toImportFrame
    have hnamedAfter := ImportRun.named h survivors_normalized hnamed
    obtain ⟨reached, _, hreadAgain, _, ⟨hnone, _⟩ | ⟨_, found, finalAgain, hrunAgain⟩⟩ :=
      import_cases hnamedAfter hagain
    · rw [hsurvivors] at hnone
      exact absurd hnone hsome
    · rw [hsurvivors] at hrunAgain
      have hcount : finalAgain.updated.length =
          (survivors parsers text subscriptionId before).length := by
        rw [← hrunAgain.updated, hsame.updated, hrunAgain.imported, hrunAgain.run.length_imported]
        simp [initial]
      have hmatched : ∀ profile ∈ survivors parsers text subscriptionId before,
          Matched profileKind after.database.rows.profiles profile := by
        intro profile hprofile
        obtain ⟨row, hrow, hdata⟩ := hrunAgain.run.known_of_updated
          (by simpa [initial] using hcount) profile hprofile
        exact ⟨row, (hrunAgain.looked row).mp hrow, hdata⟩
      obtain ⟨assigned, hinvAgain⟩ := hrunAgain.merged hreadAgain (by
        rintro ⟨profile, hprofile, hnone⟩
        exact absurd (hmatched profile hprofile) hnone)
      have hassigns : Assigns (initial profileKind before.database.rows.profiles known
          between.drawn) final (survivors parsers text subscriptionId before) assigned := by
        rw [Assigns, ← h.imported, ← hsame.imported, hrunAgain.imported, hinvAgain.imported]
        rfl
      refine h.run.noClash h.looked hassigns hinvAgain.injective ?_ htwins
      intro profile hprofile
      obtain ⟨row, hrow, _, hkey⟩ := hinvAgain.kept profile hprofile (hmatched profile hprofile)
      rw [← hkey]
      exact ((h.applied.rows row).mp hrow).1.2

/-- An import can be repeated exactly when no parsed profile brings the id of a row or of another
one. -/
theorem repeats_iff_noClash (hnamed : Named before.database)
    (hrun : outcome (importProfilesFromText parsers text subscriptionId) before =
      (.ok result, after))
    (hfresh : Fresh profileKind (drawnId before) before.database.rows.profiles
      (survivors parsers text subscriptionId before) before.drawn after.drawn)
    (hsubscriptions : FreshSubscriptions before after.drawn) :
    (NoClash profileKind before.database.rows.profiles
        (survivors parsers text subscriptionId before) →
      Repeats parsers text subscriptionId after result) ∧
    (NoTwinClash profileKind before.database.rows.profiles
        (survivors parsers text subscriptionId before) →
      (Repeats parsers text subscriptionId after result ↔
        NoClash profileKind before.database.rows.profiles
          (survivors parsers text subscriptionId before))) := by
  have hclean := repeats_of_noClash hnamed hrun hfresh hsubscriptions
  exact ⟨hclean, fun htwins => ⟨noClash_of_repeats hnamed hrun htwins, hclean⟩⟩

end Repetition

section Samples

theorem repeats_iff_of_link :
    ∃ result after, outcome (importProfilesFromText (sampleParsers "" ⟨1, []⟩) "socks://u:p@a:1"
        none) (sampleSession {} {}) = (.ok result, after) ∧
      (Repeats (sampleParsers "" ⟨1, []⟩) "socks://u:p@a:1" none after result ↔
        NoClash profileKind (sampleSession {} {}).database.rows.profiles
          (survivors (sampleParsers "" ⟨1, []⟩) "socks://u:p@a:1" none (sampleSession {} {}))) := by
  have hreturns : Returns (importProfilesFromText (sampleParsers "" ⟨1, []⟩) "socks://u:p@a:1"
      none) (sampleSession {} {}) fun _ after => after.drawn = 1 := by
    decide +kernel
  obtain ⟨result, after, hrun, hdrawn⟩ := hreturns.returned
  have hblank : ∀ profile ∈ survivors (sampleParsers "" ⟨1, []⟩) "socks://u:p@a:1" none
      (sampleSession {} {}), profile.indexId = "" := by
    decide +kernel
  have hnamed : Named (sampleSession {} {}).database := by
    intro profile hprofile
    cases hprofile
  have hfresh : Fresh profileKind (drawnId (sampleSession {} {}))
      (sampleSession {} {}).database.rows.profiles (survivors (sampleParsers "" ⟨1, []⟩)
        "socks://u:p@a:1" none (sampleSession {} {})) 0 after.drawn := by
    refine fresh_of_blank hblank (Nat.le_of_eq hdrawn) fun row hrow => ?_
    cases hrow
  have hsubscriptions : FreshSubscriptions (sampleSession {} {}) after.drawn := by
    constructor
    · intro _ _ _ item hitem
      cases hitem
    · intro first second hfirst hbefore hsecond
      omega
  exact ⟨result, after, hrun,
    (repeats_iff_noClash hnamed hrun hfresh hsubscriptions).2 (noTwinClash_of_blank hblank)⟩

def pairPayload : String :=
  "eyJzY2hlbWFWZXJzaW9uIjoxLCJwcm9maWxlcyI6W3sia2lu" ++
  "ZCI6Im5vZGUiLCJyZWZlcmVuY2UiOiJhIiwic2hhcmVfdXJp" ++
  "Ijoic29ja3M6Ly91OnBAYToxIn0seyJraW5kIjoibm9kZSIs" ++
  "InJlZmVyZW5jZSI6ImIiLCJzaGFyZV91cmkiOiJzb2Nrczov" ++
  "L3U6cEBiOjEifV19"

theorem pairPayload_chars : PayloadChars pairPayload := by
  unfold pairPayload
  refine payloadChars_append (payloadChars_append (payloadChars_append (payloadChars_append
    ?_ ?_) ?_) ?_) ?_ <;>
    exact payloadChars_of_all (by decide +kernel) (by decide +kernel)

def pairBundle : VoyaProfileBundleV1 :=
  ⟨1, [.node "a" "socks://u:p@a:1", .node "b" "socks://u:p@b:1"]⟩

def pairProfiles : List ProfileItem :=
  [{ nodeProfile "a" with indexId := "voya-import-1" },
    { nodeProfile "b" with indexId := "voya-import-2" }]

/-- A store with the first link under the id that the bundle gives its second one. -/
def crossedSession : Session :=
  sampleSession { rows := [{ nodeProfile "a" with indexId := "voya-import-2" }] } .empty

/-- The first import loses the row of the first link to the second one, and the second import adds
it again. -/
theorem import_not_repeated :
    ∃ result after, outcome (importProfilesFromText (sampleParsers pairPayload pairBundle)
        (bundleText pairPayload) none) crossedSession = (.ok result, after) ∧
      ¬Repeats (sampleParsers pairPayload pairBundle) (bundleText pairPayload) none after
        result := by
  have hprofiles : bundleProfiles (sampleParsers pairPayload pairBundle) (bundleText pairPayload)
      none = pairProfiles :=
    sample_bundleProfiles pairPayload_chars rfl (by decide +kernel)
  have honly : OnlyBundle (sampleParsers pairPayload pairBundle) (bundleText pairPayload) :=
    sample_onlyBundle pairPayload_chars
  have himport : ∀ session : Session, outcome (importProfilesFromText
      (sampleParsers pairPayload pairBundle) (bundleText pairPayload) none) session =
        outcome (importParsed none none [] { profiles := pairProfiles }) session := by
    intro session
    have hrun := @import_bundleText _ _ none session none pairPayload_chars honly
      (by rw [hprofiles]; decide) rfl
    rw [hrun, hprofiles]
    rfl
  have hreturns : Returns (importParsed none none [] { profiles := pairProfiles }) crossedSession
      fun result after => Returns (importParsed none none [] { profiles := pairProfiles }) after
        fun again _ => again.importedIndexIds ≠ result.importedIndexIds := by
    decide +kernel
  obtain ⟨result, after, hrun, hagain⟩ := (hreturns.congr (himport _)).returned
  refine ⟨result, after, hrun, fun hrepeats => ?_⟩
  obtain ⟨again, last, hfirst, hdiffers⟩ := (hagain.congr (himport after)).returned
  obtain ⟨same, found, hsecond, hsame⟩ := hrepeats.returned
  rw [hfirst] at hsecond
  cases hsecond
  exact hdiffers hsame.imported

end Samples

end ImportRepeat
