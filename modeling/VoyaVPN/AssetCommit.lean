import VoyaVPN.AssetBatch

/-! What an acquisition leaves on disk. Until the commit no target is touched; a commit that fails
keeps what its earlier copies have written. -/
namespace AssetCommit

open RustText FileTree AssetBatch

section Names

variable {around : Surroundings}

theorem toString_chars {n : Nat} {c : Char} (h : c ∈ (toString n).toList) : c ≠ '.' ∧ c ≠ '/' := by
  rw [Nat.toString_eq_ofList_toDigits, String.toList_ofList] at h
  obtain ⟨ds, htext, hsmall, -⟩ := @IpAddr.exists_digits 10 (by decide) n
  rw [htext, List.mem_map] at h
  obtain ⟨d, hd, rfl⟩ := h
  have hchars : ∀ d < 10, Nat.digitChar d ≠ '.' ∧ Nat.digitChar d ≠ '/' := by decide
  exact hchars d (hsmall d hd)

theorem stagingName_chars (around : Surroundings) :
    ∃ rest, (stagingName around).toList = '.' :: rest ∧ ∀ c ∈ rest, c ≠ '.' ∧ c ≠ '/' := by
  refine ⟨"voya-stage-".toList ++ (toString around.processId).toList ++ "-".toList ++
    (toString around.sequence).toList, ?_, ?_⟩
  · simp [stagingName, String.toList_append]
  · intro c hc
    simp only [List.mem_append] at hc
    have hword : ∀ c ∈ "voya-stage-".toList, c ≠ '.' ∧ c ≠ '/' := by simp
    have hdash : ∀ c ∈ "-".toList, c ≠ '.' ∧ c ≠ '/' := by simp
    rcases hc with ((hc | hc) | hc) | hc
    · exact hword c hc
    · exact toString_chars hc
    · exact hdash c hc
    · exact toString_chars hc

/-- The staging directory has no extension, so it is no file that may be acquired. -/
theorem pathExtension_stagingName (around : Surroundings) :
    pathExtension (stagingName around) = "" := by
  obtain ⟨rest, hname, hrest⟩ := stagingName_chars around
  have hslash : ∀ c ∈ (stagingName around).toList, ¬(c == '/') = true := by
    intro c hc
    rw [hname, List.mem_cons] at hc
    rcases hc with rfl | hc
    · decide
    · simpa using (hrest c hc).2
  have hsplit : split (stagingName around) (· == '/') = [stagingName around] := by
    rw [split, List.splitOnP_eq_singleton fun c hc => by simpa using hslash c hc]
    simp
  have hlong : 3 ≤ (stagingName around).toList.length := by
    simp [stagingName, String.toList_append]
  have hne : ∀ text : String, text.toList.length < 3 → stagingName around ≠ text := by
    rintro text hshort rfl
    omega
  have hcomponents : components (stagingName around) = [.normal (stagingName around)] := by
    have hroot : startsWith (stagingName around) "/" = false := by
      rw [startsWith, hname]
      rfl
    unfold components
    simp only [hsplit, hroot]
    simp [componentOf, hne "" (by decide), hne "." (by decide), hne ".." (by decide)]
  rw [pathExtension, hcomponents]
  simp only [List.getLast?_singleton]
  have htail : ('.' :: rest).rtakeWhile (· != '.') = rest := by
    rw [List.rtakeWhile, List.reverse_cons,
      List.takeWhile_append_of_pos (by simpa using fun c hc => (hrest c hc).1)]
    simp
  have hrsplit : rsplitOnce (stagingName around) '.' = some ("", String.ofList rest) := by
    unfold rsplitOnce
    rw [hname, htail]
    simp
  rw [extension, hrsplit]
  simp

theorem fileName_ne_stagingName {fileName : String} {body : List Nat} {allowed : List String}
    {bytes : Nat} (hallowed : "" ∉ allowed)
    (h : validateAsset around fileName body allowed = .ok bytes) :
    fileName ≠ stagingName around := by
  rintro rfl
  unfold validateAsset at h
  rw [pathExtension_stagingName] at h
  split at h
  · simp [hallowed] at h
  · cases h

end Names

/-- The batch is given back as a whole: after an error every target has what it had, and no other
file ever changes. -/
def AllOrNothing {α : Type} (targets : List Place) (before : Tree)
    (outcome : Except RulesetGeoError α × Tree) : Prop :=
  ((∃ error, outcome.1 = .error error) →
      ∀ place ∈ targets, outcome.2.fileAt place = before.fileAt place) ∧
    ∀ place ∉ targets, outcome.2.fileAt place = before.fileAt place

section Staging

variable (around : Surroundings) (options : AssetAcquisitionOptions) (allowed : List String)

/-- The asset is downloaded, passes its check and is written. -/
def StagedAt (index : Nat) (asset : BatchAsset) : Prop :=
  ∃ response bytes, bodyOf around options index asset = .ok response ∧
    validateAsset around asset.fileName response.body allowed = .ok bytes ∧
      Tree.PlainName asset.fileName ∧ around.stage index = none

def AllStaged : Nat → List BatchAsset → Prop
  | _, [] => True
  | index, asset :: assets => StagedAt around options allowed index asset ∧
    AllStaged (index + 1) assets

/-- What is staged under a name; of assets with the same name it is the last. -/
def stagedContent : Nat → List BatchAsset → String → Option (List Nat)
  | _, [], _ => none
  | index, asset :: assets, name =>
    match stagedContent (index + 1) assets name with
    | some content => some content
    | none =>
      if asset.fileName = name then (bodyOf around options index asset).toOption.map (·.body)
      else none

/-- The staging directory can be made, and nothing is in its place. -/
def StagingMade (targetDir : Place) (before : Tree) : Prop :=
  Creatable around.mkdir before [] targetDir ∧
    before.nodes (targetDir ++ [stagingName around]) = none ∧
      around.mkdir (targetDir ++ [stagingName around]) = none

variable {around options allowed}

structure StagingPlace (tree : Tree) (staging : Place) : Prop where
  directory : tree.nodes staging = some .directory
  flat : ∀ name, tree.nodes (staging ++ [name]) ≠ some .directory

theorem StagingPlace.put {tree : Tree} {staging : Place} (h : StagingPlace tree staging)
    {name : String} (hobstacle : tree.obstacle staging name = none) (content : List Nat) :
    StagingPlace (tree.put staging name content) staging := by
  constructor
  · rw [Tree.nodes_put hobstacle, if_neg (Tree.append_ne_self staging name).symm]
    exact h.directory
  · intro other
    rw [Tree.nodes_put hobstacle]
    split
    · intro hfile
      cases hfile
    · exact h.flat other

theorem stageAsset_cases {index : Nat} {asset : BatchAsset} {staging : Place} {tree after : Tree}
    {result : Except RulesetGeoError StagedAsset} (hplace : StagingPlace tree staging)
    (h : stageAsset around options index asset staging allowed tree = (result, after)) :
    (∃ staged response, result = .ok staged ∧ StagedAt around options allowed index asset ∧
        bodyOf around options index asset = .ok response ∧
          tree.obstacle staging asset.fileName = none ∧
            after = tree.put staging asset.fileName response.body) ∨
      (∃ error, result = .error error) ∧ ¬StagedAt around options allowed index asset ∧
        ∀ place, place ≠ staging ++ [asset.fileName] → after.nodes place = tree.nodes place := by
  unfold stageAsset at h
  split at h
  · rename_i error hbody
    cases h
    refine .inr ⟨⟨_, rfl⟩, ?_, fun place _ => rfl⟩
    rintro ⟨response, bytes, hresponse, -⟩
    rw [hbody] at hresponse
    cases hresponse
  · rename_i response hbody
    split at h
    · rename_i error hinvalid
      cases h
      refine .inr ⟨⟨_, rfl⟩, ?_, fun place _ => rfl⟩
      rintro ⟨other, bytes, hother, hvalid, -⟩
      rw [hbody] at hother
      cases hother
      rw [hinvalid] at hvalid
      cases hvalid
    · rename_i bytes hvalid
      rw [Tree.createDirAll,
        createDirectories_existing (by rw [List.nil_append]; exact hplace.directory)]
        at h
      simp only at h
      split at h
      · rename_i error written hwrite
        cases h
        refine .inr ⟨⟨_, rfl⟩, ?_, fun place hne => nodes_writeFile hwrite hne⟩
        rintro ⟨other, otherBytes, hother, -, hplain, hfault⟩
        have hobstacle := (Tree.obstacle_eq_none_iff hplace.directory).mpr
          ⟨hplain, hplace.flat asset.fileName⟩
        unfold Tree.writeFile at hwrite
        rw [hobstacle, hfault] at hwrite
        cases hwrite
      · rename_i written hwrite
        cases h
        rcases writeFile_cases hwrite with ⟨-, hfault, hobstacle, rfl⟩ | ⟨error, herror, -⟩ |
            ⟨failed, -, herror, -⟩
        · have hplain := ((Tree.obstacle_eq_none_iff hplace.directory).mp hobstacle).1
          exact .inl ⟨_, response, rfl, ⟨response, bytes, hbody, hvalid, hplain, hfault⟩, hbody,
            hobstacle, rfl⟩
        · cases herror
        · cases herror

/-- What staging leaves below the staging directory, by induction over the assets; every place
that is not right below it is kept. -/
theorem stageAssets_cases {kind : AcquiredAssetKind} {targetDir staging : Place}
    {assets : List BatchAsset} {index : Nat} {tree after : Tree}
    {result : Except RulesetGeoError (List AcquiredRulesetGeoAsset)}
    (hplace : StagingPlace tree staging)
    (h : stageAssets around options kind allowed targetDir staging index assets tree =
      (result, after)) :
    (∀ place, (∀ name, place ≠ staging ++ [name]) → after.nodes place = tree.nodes place) ∧
      ((∃ acquired, result = .ok acquired ∧ AllStaged around options allowed index assets ∧
          ∀ name, after.nodes (staging ++ [name]) =
            match stagedContent around options index assets name with
            | some content => some (.file content)
            | none => tree.nodes (staging ++ [name])) ∨
        (∃ error, result = .error error) ∧ ¬AllStaged around options allowed index assets) := by
  induction assets generalizing index tree after result with
  | nil =>
    cases h
    exact ⟨fun place _ => rfl, .inl ⟨[], rfl, trivial, fun name => rfl⟩⟩
  | cons asset assets ih =>
    rw [stageAssets] at h
    split at h
    · rename_i error failed hstage
      cases h
      rcases stageAsset_cases hplace hstage with ⟨staged, response, hok, -⟩ | ⟨-, hnot, hkept⟩
      · cases hok
      · exact ⟨fun place hoff => hkept place (hoff asset.fileName),
          .inr ⟨⟨error, rfl⟩, fun hall => hnot hall.1⟩⟩
    · rename_i staged written hstage
      rcases stageAsset_cases hplace hstage with
          ⟨staged', response, -, hstaged, hbody, hobstacle, rfl⟩ | ⟨⟨error, herror⟩, -⟩
      · have hput := Tree.nodes_put hobstacle response.body
        -- the rest of the batch starts from the tree with this asset staged
        have hrest := fun result after => @ih (index + 1)
          (tree.put staging asset.fileName response.body) after result
          (hplace.put hobstacle response.body)
        split at h
        · rename_i error failed hstages
          cases h
          obtain ⟨hkept, hresult⟩ := hrest _ _ hstages
          refine ⟨?_, ?_⟩
          · intro place hoff
            rw [hkept place hoff, hput, if_neg (hoff asset.fileName)]
          · rcases hresult with ⟨acquired, hok, -⟩ | ⟨-, hnot⟩
            · cases hok
            · exact .inr ⟨⟨error, rfl⟩, fun hall => hnot hall.2⟩
        · rename_i acquired done hstages
          cases h
          obtain ⟨hkept, hresult⟩ := hrest _ _ hstages
          refine ⟨?_, ?_⟩
          · intro place hoff
            rw [hkept place hoff, hput, if_neg (hoff asset.fileName)]
          · rcases hresult with ⟨acquired', hok, hall, hcontents⟩ | ⟨⟨error, herror⟩, -⟩
            · refine .inl ⟨_, rfl, ⟨hstaged, hall⟩, ?_⟩
              intro name
              rw [hcontents, stagedContent]
              cases stagedContent around options (index + 1) assets name with
              | some content => rfl
              | none =>
                simp only
                rw [hput]
                by_cases hname : asset.fileName = name
                · rw [if_pos hname, if_pos (by rw [hname]), hbody]
                  rfl
                · rw [if_neg hname, if_neg]
                  intro heq
                  exact hname (by simpa using heq.symm)
            · cases herror
      · cases herror

end Staging

section Commit

variable (around : Surroundings)

/-- How the copy of a file fails, if it does: on a directory, or by itself. -/
def copyFault (targetDir : Place) (before : Tree) (index : Nat) (name : String) :
    Option WriteFault :=
  if before.nodes (targetDir ++ [name]) = some .directory then some ⟨.isADirectory, none⟩
  else around.copy index

/-- The first copy that fails, with those before it and what it leaves in its file. -/
def commitBreak (targetDir : Place) (before : Tree) :
    Nat → List String → Option (List String × String × Option Nat)
  | _, [] => none
  | index, name :: names =>
    match copyFault around targetDir before index name with
    | some fault => some ([], name, fault.left)
    | none =>
      (commitBreak targetDir before (index + 1) names).map fun (earlier, failing, left) =>
        (name :: earlier, failing, left)

/-- The files have been copied and nothing else has changed. -/
structure Copied (targetDir : Place) (content : String → List Nat) (names : List String)
    (before after : Tree) : Prop where
  written : ∀ name ∈ names, after.nodes (targetDir ++ [name]) = some (.file (content name))
  kept : ∀ place, (∀ name ∈ names, place ≠ targetDir ++ [name]) →
    after.nodes place = before.nodes place

/-- Some files have been copied before a copy has failed. -/
structure Broken (targetDir : Place) (content : String → List Nat) (earlier : List String)
    (failing : String) (left : Option Nat) (before after : Tree) : Prop where
  written : ∀ name ∈ earlier, (name = failing → left = none) →
    after.nodes (targetDir ++ [name]) = some (.file (content name))
  torn : ∀ count, left = some count →
    after.nodes (targetDir ++ [failing]) = some (.file ((content failing).take count))
  kept : ∀ place, (∀ name ∈ earlier, place ≠ targetDir ++ [name]) →
    (place = targetDir ++ [failing] → left = none) → after.nodes place = before.nodes place

variable {around} {targetDir : Place} {content : String → List Nat} {before : Tree}

theorem append_name_inj {place : Place} {name other : String} :
    place ++ [name] = place ++ [other] ↔ name = other := by
  simp

/-- A file that is copied first and not again is still there after the others. -/
theorem Copied.cons {name : String} {names : List String} {tree after : Tree}
    (hobstacle : tree.obstacle targetDir name = none)
    (h : Copied targetDir content names (tree.put targetDir name (content name)) after) :
    Copied targetDir content (name :: names) tree after := by
  have hput := Tree.nodes_put hobstacle (content name)
  constructor
  · intro other hother
    by_cases hmem : other ∈ names
    · exact h.written other hmem
    · obtain rfl := (List.mem_cons.mp hother).resolve_right hmem
      rw [h.kept, hput, if_pos rfl]
      intro again hagain heq
      rw [append_name_inj.mp heq] at hmem
      exact hmem hagain
  · intro place hplace
    rw [h.kept place fun other hother => hplace other (List.mem_cons_of_mem _ hother), hput,
      if_neg (hplace name List.mem_cons_self)]

theorem Broken.cons {name failing : String} {earlier : List String} {left : Option Nat}
    {tree after : Tree} (hobstacle : tree.obstacle targetDir name = none)
    (h : Broken targetDir content earlier failing left
      (tree.put targetDir name (content name)) after) :
    Broken targetDir content (name :: earlier) failing left tree after := by
  have hput := Tree.nodes_put hobstacle (content name)
  constructor
  · intro other hother hleft
    by_cases hmem : other ∈ earlier
    · exact h.written other hmem hleft
    · obtain rfl := (List.mem_cons.mp hother).resolve_right hmem
      rw [h.kept, hput, if_pos rfl]
      · intro again hagain heq
        rw [append_name_inj.mp heq] at hmem
        exact hmem hagain
      · intro heq
        exact hleft (append_name_inj.mp heq)
  · exact h.torn
  · intro place hplace hleft
    rw [h.kept place (fun other hother => hplace other (List.mem_cons_of_mem _ hother)) hleft, hput,
      if_neg (hplace name List.mem_cons_self)]

/-- What the commit needs: the staged files and a target directory apart from them. -/
structure Ready (targetDir staging : Place) (content : String → List Nat) (before tree : Tree)
    (names : List String) : Prop where
  directory : tree.nodes targetDir = some .directory
  staged : ∀ name ∈ names, tree.fileAt (staging ++ [name]) = some (content name)
  plain : ∀ name ∈ names, Tree.PlainName name
  apart : ∀ name other, targetDir ++ [name] ≠ staging ++ [other]
  sameDirectories : ∀ name ∈ names, tree.nodes (targetDir ++ [name]) = some .directory ↔
    before.nodes (targetDir ++ [name]) = some .directory

theorem Ready.tail {staging : Place} {tree : Tree} {name : String} {names : List String}
    (h : Ready targetDir staging content before tree (name :: names))
    (hobstacle : tree.obstacle targetDir name = none) :
    Ready targetDir staging content before (tree.put targetDir name (content name)) names := by
  have hput := Tree.nodes_put hobstacle (content name)
  constructor
  · rw [hput, if_neg (Tree.append_ne_self targetDir name).symm]
    exact h.directory
  · intro other hother
    rw [← h.staged other (List.mem_cons_of_mem _ hother)]
    exact fileAt_congr (by rw [hput, if_neg (h.apart name other).symm])
  · exact fun other hother => h.plain other (List.mem_cons_of_mem _ hother)
  · exact h.apart
  · intro other hother
    rw [← h.sameDirectories other (List.mem_cons_of_mem _ hother), hput]
    split
    · rename_i heq
      obtain rfl := append_name_inj.mp heq
      have hnode := ((Tree.obstacle_eq_none_iff h.directory).mp hobstacle).2
      constructor
      · intro hfile
        cases hfile
      · intro hdirectory
        exact absurd hdirectory hnode
    · exact Iff.rfl

theorem copyFile_cases {staging : Place} {tree after : Tree} {name : String} {names : List String}
    {index : Nat} {result : Except IoError Unit}
    (hready : Ready targetDir staging content before tree (name :: names))
    (h : tree.copyFile staging targetDir name (around.copy index) = (result, after)) :
    (result = .ok () ∧ copyFault around targetDir before index name = none ∧
        tree.obstacle targetDir name = none ∧ after = tree.put targetDir name (content name)) ∨
      ∃ error fault, result = .error error ∧
        copyFault around targetDir before index name = some fault ∧
          Broken targetDir content [] name fault.left tree after := by
  have hplain := hready.plain name List.mem_cons_self
  have hdirs := hready.sameDirectories name List.mem_cons_self
  rw [Tree.copyFile, hready.staged name List.mem_cons_self] at h
  simp only at h
  have hquiet : ∀ fault : WriteFault, fault.left = none →
      Broken targetDir content [] name fault.left tree tree := by
    intro fault hleft
    rw [hleft]
    refine ⟨?_, ?_, fun place _ _ => rfl⟩
    · intro other hother
      cases hother
    · intro count hcount
      cases hcount
  rcases writeFile_cases h with ⟨hok, hfault, hobstacle, hafter⟩ | ⟨error, herror,
    hobstacle, hafter⟩ |
      ⟨fault, hfault, herror, hobstacle, hafter⟩
  · refine .inl ⟨hok, ?_, hobstacle, hafter⟩
    have hnode := ((Tree.obstacle_eq_none_iff hready.directory).mp hobstacle).2
    rw [copyFault, if_neg fun hbefore => hnode (hdirs.mpr hbefore), hfault]
  · have hnode : tree.nodes (targetDir ++ [name]) = some .directory := by
      by_contra hnode
      rw [(Tree.obstacle_eq_none_iff hready.directory).mpr ⟨hplain, hnode⟩] at hobstacle
      cases hobstacle
    refine .inr ⟨error, ⟨.isADirectory, none⟩, herror, ?_, ?_⟩
    · rw [copyFault, if_pos (hdirs.mp hnode)]
    · rw [hafter]
      exact hquiet ⟨.isADirectory, none⟩ rfl
  · have hnode := ((Tree.obstacle_eq_none_iff hready.directory).mp hobstacle).2
    refine .inr ⟨fault.error, fault, herror, ?_, ?_⟩
    · rw [copyFault, if_neg fun hbefore => hnode (hdirs.mpr hbefore), hfault]
    · cases hleft : fault.left with
      | none =>
        rw [hleft] at hafter
        have hbroken := hquiet fault hleft
        rw [hleft] at hbroken
        rw [hafter]
        exact hbroken
      | some count =>
        rw [hleft] at hafter
        have hput := Tree.nodes_put hobstacle ((content name).take count)
        rw [hafter]
        refine ⟨?_, ?_, ?_⟩
        · intro other hother
          cases hother
        · intro other hother
          cases hother
          rw [hput, if_pos rfl]
        · intro place _ hplace
          rw [hput, if_neg]
          intro heq
          cases hplace heq

theorem commit_cases {staging : Place} {names : List String} {tree after : Tree} {index : Nat}
    {result : Except RulesetGeoError Unit}
    (hready : Ready targetDir staging content before tree names)
    (h : commit around targetDir staging index names tree = (result, after)) :
    (result = .ok () ∧ commitBreak around targetDir before index names = none ∧
        Copied targetDir content names tree after) ∨
      ∃ error earlier failing left, result = .error error ∧
        commitBreak around targetDir before index names = some (earlier, failing, left) ∧
          (∀ name ∈ earlier, name ∈ names) ∧ failing ∈ names ∧
            Broken targetDir content earlier failing left tree after := by
  induction names generalizing index tree after with
  | nil =>
    cases h
    refine .inl ⟨rfl, rfl, ?_, fun place _ => rfl⟩
    intro name hname
    cases hname
  | cons name names ih =>
    rw [commit] at h
    split at h
    · rename_i error failed hcopy
      cases h
      rcases copyFile_cases hready hcopy with ⟨hok, -⟩ | ⟨other, fault, -, hfault, hbroken⟩
      · cases hok
      · refine .inr ⟨_, [], name, fault.left, rfl, ?_, ?_, List.mem_cons_self, hbroken⟩
        · rw [commitBreak, hfault]
        · intro other hother
          cases hother
    · rename_i copied hcopy
      rcases copyFile_cases hready hcopy with ⟨-, hnone, hobstacle, rfl⟩ | ⟨other, fault, herror, -⟩
      · rcases ih (hready.tail hobstacle) h with ⟨hok, hbreak, hcopied⟩ |
            ⟨error, earlier, failing, left, herror, hbreak, hmem, hfailing, hbroken⟩
        · refine .inl ⟨hok, ?_, hcopied.cons hobstacle⟩
          rw [commitBreak, hnone, hbreak]
          rfl
        · refine .inr ⟨error, name :: earlier, failing, left, herror, ?_, ?_,
            List.mem_cons_of_mem _ hfailing, hbroken.cons hobstacle⟩
          · rw [commitBreak, hnone, hbreak]
            rfl
          · intro other hother
            rcases List.mem_cons.mp hother with rfl | hother
            · exact List.mem_cons_self
            · exact List.mem_cons_of_mem _ (hmem other hother)
      · cases herror

end Commit

section Acquisitions

variable {around : Surroundings} {options : AssetAcquisitionOptions} {allowed : List String}

theorem createStaging_cases {targetDir : Place} {before after : Tree}
    {result : Except RulesetGeoError Place}
    (h : createStaging around targetDir before = (result, after)) :
    (∀ place, after.fileAt place = before.fileAt place) ∧
      ((∃ error, result = .error error ∧ ¬StagingMade around targetDir before) ∨
        (result = .ok (targetDir ++ [stagingName around]) ∧ StagingMade around targetDir before ∧
          after.nodes targetDir = some .directory ∧
            StagingPlace after (targetDir ++ [stagingName around]) ∧
              ∀ name, name ≠ stagingName around →
                after.nodes (targetDir ++ [name]) = before.nodes (targetDir ++ [name]))) := by
  unfold createStaging at h
  split at h
  · rename_i error made hmade
    cases h
    refine ⟨fileAt_createDirAll hmade, .inl ⟨_, rfl, ?_⟩⟩
    rintro ⟨hcreatable, -⟩
    rcases (createDirectories_cases before.root hmade).2 with ⟨hok, -⟩ | ⟨-, -, hnot⟩
    · cases hok
    · exact hnot hcreatable
  · rename_i made hmade
    obtain ⟨hkept, hresult⟩ := createDirectories_cases before.root hmade
    have hbeside : ∀ name, made.nodes (targetDir ++ [name]) =
        before.nodes (targetDir ++ [name]) := by
      intro name
      refine hkept _ ?_
      intro front _ hfront heq
      have hlength := congrArg List.length heq
      have hle := hfront.length_le
      simp only [List.length_append, List.length_singleton, List.length_nil] at hlength
      omega
    rcases hresult with ⟨-, hcreatable, hdirectory⟩ | ⟨error, herror, -⟩
    · rw [List.nil_append] at hdirectory
      simp only at h
      split at h
      · rename_i error failed hfailed
        cases h
        refine ⟨?_, .inl ⟨_, rfl, ?_⟩⟩
        · intro place
          rw [fileAt_createDirectory hfailed, fileAt_createDirAll hmade]
        · rintro ⟨-, hnone, hallowed⟩
          rw [Tree.createDirectory, hbeside, hnone, hallowed] at hfailed
          simp only [dif_pos hdirectory] at hfailed
          cases hfailed
      · rename_i staged hstaged
        cases h
        refine ⟨?_, .inr ⟨rfl, ?_⟩⟩
        · intro place
          rw [fileAt_createDirectory hstaged, fileAt_createDirAll hmade]
        · rcases createDirectory_cases hstaged with ⟨error, herror, -⟩ | ⟨-, hnone, hnodes⟩
          · cases herror
          · have hallowed : around.mkdir (targetDir ++ [stagingName around]) = none := by
              cases hrefused : around.mkdir (targetDir ++ [stagingName around]) with
              | none => rfl
              | some error =>
                rw [Tree.createDirectory, hnone, hrefused] at hstaged
                simp only [dif_pos hdirectory] at hstaged
                cases hstaged
            refine ⟨⟨hcreatable, ?_, hallowed⟩, ?_, ⟨?_, ?_⟩, ?_⟩
            · rw [← hbeside]
              exact hnone
            · rw [hnodes, if_neg (Tree.append_ne_self targetDir _).symm]
              exact hdirectory
            · rw [hnodes, if_pos rfl]
            · intro name
              rw [hnodes, if_neg (Tree.append_ne_self _ name), nothing_below hnone [name]]
              intro hdirectory
              cases hdirectory
            · intro name hname
              rw [hnodes, if_neg fun heq => hname (append_name_inj.mp heq), hbeside]
    · cases herror

theorem allStaged_names {assets : List BatchAsset} {index : Nat} (hallowed : "" ∉ allowed)
    (h : AllStaged around options allowed index assets) :
    ∀ name ∈ assets.map (·.fileName), Tree.PlainName name ∧ name ≠ stagingName around ∧
      ∃ content, stagedContent around options index assets name = some content := by
  induction assets generalizing index with
  | nil =>
    intro name hname
    cases hname
  | cons asset assets ih =>
    intro name hname
    obtain ⟨⟨response, bytes, hbody, hvalid, hplain, -⟩, hrest⟩ := h
    by_cases hmem : name ∈ assets.map (·.fileName)
    · obtain ⟨hplain, hne, content, hcontent⟩ := ih hrest name hmem
      refine ⟨hplain, hne, content, ?_⟩
      rw [stagedContent, hcontent]
    · obtain rfl := (List.mem_cons.mp hname).resolve_right hmem
      refine ⟨hplain, fileName_ne_stagingName hallowed hvalid, ?_⟩
      rw [stagedContent]
      cases stagedContent around options (index + 1) assets asset.fileName with
      | some content => exact ⟨content, rfl⟩
      | none => exact ⟨response.body, by simp [hbody, Except.toOption]⟩

def targetsOf (targetDir : Place) (assets : List BatchAsset) : List Place :=
  assets.map fun asset => targetDir ++ [asset.fileName]

theorem mem_targetsOf {targetDir place : Place} {assets : List BatchAsset} :
    place ∈ targetsOf targetDir assets ↔
      ∃ name ∈ assets.map (·.fileName), place = targetDir ++ [name] := by
  simp only [targetsOf, List.mem_map]
  constructor
  · rintro ⟨asset, hasset, rfl⟩
    exact ⟨_, ⟨asset, hasset, rfl⟩, rfl⟩
  · rintro ⟨-, ⟨asset, hasset, rfl⟩, rfl⟩
    exact ⟨asset, hasset, rfl⟩

/-- Removing the staging directory leaves the files as they were below it: there were none. -/
theorem fileAt_removed {tree before : Tree} {targetDir : Place} {name : String}
    (hnone : before.nodes (targetDir ++ [name]) = none) (place : Place) :
    (tree.removeDirAll (targetDir ++ [name])).fileAt place =
      if targetDir ++ [name] <+: place then before.fileAt place else tree.fileAt place := by
  split
  · rename_i hbelow
    obtain ⟨names, rfl⟩ := hbelow
    have hremoved : (tree.removeDirAll (targetDir ++ [name])).nodes
        (targetDir ++ [name] ++ names) = none := by
      show (if _ then _ else _) = _
      exact if_pos ⟨by simp, List.prefix_append _ _⟩
    rw [Tree.fileAt, Tree.fileAt, hremoved, nothing_below hnone names]
  · rename_i houtside
    refine fileAt_congr ?_
    show (if _ then _ else _) = _
    exact if_neg fun h => houtside h.2

/-- A failed copy leaves the targets as they were: what it has left itself, and what the copies
before it have written, is what was there. -/
def Unharmed (targetDir : Place) (before : Tree) (content : String → Option (List Nat))
    (earlier : List String) (failing : String) (left : Option Nat) : Prop :=
  (∀ count, left = some count →
      before.fileAt (targetDir ++ [failing]) = (content failing).map (·.take count)) ∧
    ∀ name ∈ earlier, (name = failing → left = none) →
      before.fileAt (targetDir ++ [name]) = content name

/-- The files after a commit that fails, seen once the staging directory is gone. -/
structure TornFiles (targetDir : Place) (content : String → Option (List Nat))
    (earlier : List String) (failing : String) (left : Option Nat) (before after : Tree) :
    Prop where
  written : ∀ name ∈ earlier, (name = failing → left = none) →
    after.fileAt (targetDir ++ [name]) = content name
  torn : ∀ count, left = some count →
    after.fileAt (targetDir ++ [failing]) = (content failing).map (·.take count)
  kept : ∀ place, (∀ name ∈ earlier, place ≠ targetDir ++ [name]) →
    (place = targetDir ++ [failing] → left = none) → after.fileAt place = before.fileAt place

/-- A torn commit has done no harm exactly when it has left all files as they were. -/
theorem TornFiles.unharmed_iff {targetDir : Place} {content : String → Option (List Nat)}
    {earlier : List String} {failing : String} {left : Option Nat} {before after : Tree}
    (h : TornFiles targetDir content earlier failing left before after) :
    Unharmed targetDir before content earlier failing left ↔
      ∀ place, after.fileAt place = before.fileAt place := by
  constructor
  · rintro ⟨htorn, hwritten⟩ place
    by_cases hfailing : place = targetDir ++ [failing] → left = none
    · by_cases hearlier : ∃ name ∈ earlier, place = targetDir ++ [name]
      · obtain ⟨name, hname, rfl⟩ := hearlier
        have hquiet : name = failing → left = none := fun heq => hfailing (by rw [heq])
        rw [h.written name hname hquiet, hwritten name hname hquiet]
      · exact h.kept place (fun name hname heq => hearlier ⟨name, hname, heq⟩) hfailing
    · have hplace : place = targetDir ++ [failing] := by
        by_contra hne
        exact hfailing fun heq => absurd heq hne
      cases hleft : left with
      | none => exact absurd (fun _ => hleft) hfailing
      | some count => rw [hplace, h.torn count hleft, htorn count hleft]
  · intro hsame
    refine ⟨?_, ?_⟩
    · intro count hleft
      rw [← hsame, h.torn count hleft]
    · intro name hname hquiet
      rw [← hsame, h.written name hname hquiet]

theorem acquireAssets_cases (hallowed : "" ∉ allowed) (kind : AcquiredAssetKind)
    (assets : List BatchAsset) (targetDir : Place) (before : Tree)
    {outcome : Except RulesetGeoError (List AcquiredRulesetGeoAsset) × Tree}
    (houtcome : acquireAssets around options kind allowed assets targetDir before = outcome) :
    ((∃ error, outcome.1 = .error error) ∧
        ¬(StagingMade around targetDir before ∧ AllStaged around options allowed 0 assets) ∧
          ∀ place, outcome.2.fileAt place = before.fileAt place) ∨
      (StagingMade around targetDir before ∧ AllStaged around options allowed 0 assets ∧
        ((commitBreak around targetDir before 0 (assets.map (·.fileName)) = none ∧
            (∃ acquired, outcome.1 = .ok acquired) ∧
              ∀ place ∉ targetsOf targetDir assets,
                outcome.2.fileAt place = before.fileAt place) ∨
          ∃ earlier failing left, commitBreak around targetDir before 0
              (assets.map (·.fileName)) = some (earlier, failing, left) ∧
            (∃ error, outcome.1 = .error error) ∧
              (∀ name ∈ earlier, name ∈ assets.map (·.fileName)) ∧
                failing ∈ assets.map (·.fileName) ∧
                  TornFiles targetDir (stagedContent around options 0 assets) earlier failing left
                    before outcome.2)) := by
  subst houtcome
  unfold acquireAssets
  split
  · rename_i error made hstaging
    obtain ⟨hfiles, hresult⟩ := createStaging_cases hstaging
    rcases hresult with ⟨other, -, hnot⟩ | ⟨hok, -⟩
    · exact .inl ⟨⟨error, rfl⟩, fun h => hnot h.1, hfiles⟩
    · cases hok
  · rename_i staging made hstaging
    obtain ⟨hfiles, hresult⟩ := createStaging_cases hstaging
    rcases hresult with ⟨error, herror, -⟩ | ⟨hok, hmade, hdirectory, hplace, hbeside⟩
    · cases herror
    · cases hok
      have hremoved := fun (tree : Tree) => @fileAt_removed tree before targetDir
        (stagingName around) hmade.2.1
      simp only
      generalize hrun : stageAndCommit around options kind allowed targetDir
        (targetDir ++ [stagingName around]) assets made = run
      obtain ⟨result, tree⟩ := run
      unfold stageAndCommit at hrun
      split at hrun
      · rename_i error failed hstages
        cases hrun
        obtain ⟨hkept, hresult⟩ := stageAssets_cases hplace hstages
        rcases hresult with ⟨acquired, hok, -⟩ | ⟨-, hnot⟩
        · cases hok
        · refine .inl ⟨⟨error, rfl⟩, fun h => hnot h.2, ?_⟩
          intro place
          simp only
          rw [hremoved]
          split
          · rfl
          · rename_i houtside
            rw [← hfiles place]
            refine fileAt_congr (hkept place ?_)
            rintro name rfl
            exact houtside (List.prefix_append _ _)
      · rename_i acquired staged hstages
        obtain ⟨hkept, hresult⟩ := stageAssets_cases hplace hstages
        rcases hresult with ⟨acquired', -, hall, hcontents⟩ | ⟨⟨error, herror⟩, -⟩
        · have hnames := allStaged_names hallowed hall
          -- the places beside the staging directory are as they were before
          have hapart : ∀ name other, targetDir ++ [name] ≠
              targetDir ++ [stagingName around] ++ [other] := by
            intro name other heq
            have hlength := congrArg List.length heq
            simp at hlength
          have hsame : ∀ place, ¬targetDir ++ [stagingName around] <+: place →
              staged.fileAt place = before.fileAt place := by
            intro place houtside
            rw [← hfiles place]
            refine fileAt_congr (hkept place ?_)
            rintro name rfl
            exact houtside (List.prefix_append _ _)
          have houtside : ∀ name ∈ assets.map (·.fileName),
              ¬targetDir ++ [stagingName around] <+: targetDir ++ [name] := by
            intro name hname hprefixed
            have heq := hprefixed.eq_of_length (by simp)
            exact (hnames name hname).2.1 (append_name_inj.mp heq).symm
          have hready : Ready targetDir (targetDir ++ [stagingName around])
              (fun name => (stagedContent around options 0 assets name).getD []) before staged
                (assets.map (·.fileName)) := by
            constructor
            · rw [hkept targetDir]
              · exact hdirectory
              · intro name heq
                have hlength := congrArg List.length heq
                simp at hlength
            · intro name hname
              obtain ⟨-, -, content, hcontent⟩ := hnames name hname
              have hnode := hcontents name
              rw [hcontent] at hnode
              rw [Tree.fileAt, hnode, hcontent]
              rfl
            · exact fun name hname => (hnames name hname).1
            · exact hapart
            · intro name hname
              rw [hkept _ (hapart name), hbeside name (hnames name hname).2.1]
          refine .inr ⟨hmade, hall, ?_⟩
          split at hrun
          · rename_i error torn hcommit
            cases hrun
            rcases commit_cases hready hcommit with ⟨hok, -⟩ |
                ⟨other, earlier, failing, left, -, hbreak, hearlier, hfailing, hbroken⟩
            · cases hok
            · refine .inr ⟨earlier, failing, left, hbreak, ⟨error, rfl⟩, hearlier, hfailing, ?_⟩
              constructor
              · intro name hname hquiet
                obtain ⟨-, -, content, hcontent⟩ := hnames name (hearlier name hname)
                simp only
                rw [hremoved, if_neg (houtside name (hearlier name hname)), Tree.fileAt,
                  hbroken.written name hname hquiet, hcontent]
                rfl
              · intro count hleft
                obtain ⟨-, -, content, hcontent⟩ := hnames failing hfailing
                simp only
                rw [hremoved, if_neg (houtside failing hfailing), Tree.fileAt,
                  hbroken.torn count hleft, hcontent]
                rfl
              · intro place hplace hquiet
                simp only
                rw [hremoved]
                split
                · rfl
                · rename_i hout
                  rw [← hsame place hout]
                  exact fileAt_congr (hbroken.kept place hplace hquiet)
          · rename_i copied hcommit
            cases hrun
            rcases commit_cases hready hcommit with ⟨-, hbreak, hcopied⟩ | ⟨error, _, _,
              _, herror, -⟩
            · refine .inl ⟨hbreak, ⟨acquired, rfl⟩, ?_⟩
              intro place htarget
              simp only
              rw [hremoved]
              split
              · rfl
              · rename_i hout
                rw [← hsame place hout]
                refine fileAt_congr (hcopied.kept place ?_)
                intro name hname heq
                exact htarget (mem_targetsOf.mpr ⟨name, hname, heq⟩)
            · cases herror
        · cases herror

/-- The condition under which a batch is all or nothing: it gets no further than the staging, or
the copy that fails, if one does, has done no harm. -/
def CommitHarmless (around : Surroundings) (options : AssetAcquisitionOptions)
    (allowed : List String) (assets : List BatchAsset) (targetDir : Place) (before : Tree) : Prop :=
  StagingMade around targetDir before → AllStaged around options allowed 0 assets →
    ∀ earlier failing left, commitBreak around targetDir before 0 (assets.map (·.fileName)) =
      some (earlier, failing, left) →
        Unharmed targetDir before (stagedContent around options 0 assets) earlier failing left

theorem acquireAssets_iff (hallowed : "" ∉ allowed) (kind : AcquiredAssetKind)
    (assets : List BatchAsset) (targetDir : Place) (before : Tree) :
    AllOrNothing (targetsOf targetDir assets) before
        (acquireAssets around options kind allowed assets targetDir before) ↔
      CommitHarmless around options allowed assets targetDir before := by
  rcases acquireAssets_cases hallowed kind assets targetDir before rfl with
      ⟨-, hnot, hsame⟩ | ⟨hmade, hall, ⟨hbreak, ⟨acquired, hok⟩, hsame⟩ |
        ⟨earlier, failing, left, hbreak, herror, hearlier, hfailing, htorn⟩⟩
  · constructor
    · intro _ hmade hall
      exact absurd ⟨hmade, hall⟩ hnot
    · intro _
      exact ⟨fun _ place _ => hsame place, fun place _ => hsame place⟩
  · constructor
    · intro _ _ _ earlier failing left hsome
      rw [hbreak] at hsome
      cases hsome
    · intro _
      refine ⟨?_, hsame⟩
      rintro ⟨error, herror⟩
      rw [hok] at herror
      cases herror
  · constructor
    · rintro ⟨htargets, hothers⟩ _ _ earlier' failing' left' hsome
      rw [hbreak] at hsome
      cases hsome
      rw [htorn.unharmed_iff]
      intro place
      by_cases htarget : place ∈ targetsOf targetDir assets
      · exact htargets herror place htarget
      · exact hothers place htarget
    · intro hharmless
      have hsame := htorn.unharmed_iff.mp (hharmless hmade hall earlier failing left hbreak)
      exact ⟨fun _ place _ => hsame place, fun place _ => hsame place⟩

/-- A batch of either kind is all or nothing unless its commit breaks and has done harm. -/
theorem acquired_all_or_nothing_iff (around : Surroundings) (options : AssetAcquisitionOptions)
    (geo : List GeoAsset) (srs : List SrsAsset) (targetDir : Place) (before : Tree) :
    (AllOrNothing (targetsOf targetDir (geo.map GeoAsset.toBatch)) before
        (acquireGeoAssets around options geo targetDir before) ↔
      CommitHarmless around options ["dat", "mmdb", "metadb"] (geo.map GeoAsset.toBatch) targetDir
        before) ∧
    (AllOrNothing (targetsOf targetDir (srs.map SrsAsset.toBatch)) before
        (acquireSrsAssets around options srs targetDir before) ↔
      CommitHarmless around options ["srs"] (srs.map SrsAsset.toBatch) targetDir before) := by
  constructor
  · exact acquireAssets_iff (by decide) .geo _ targetDir before
  · exact acquireAssets_iff (by decide) .ruleset _ targetDir before

def rootTree : Tree where
  nodes place := if place = [] then some .directory else none
  root := if_pos rfl
  closed := by
    intro place name hne
    rw [if_neg (by simp)] at hne
    exact absurd rfl hne

/-- The server gives every file the same byte, and the second copy of a commit fails before it
has opened its file. -/
def secondCopyFails : Surroundings where
  network :=
    { urlParse := fun text => .ok
        { scheme := "https", host := some (.domain "cdn.example"), text := text, queryKeys := [] }
      appendPair := fun url _ _ => url
      directClient := .ok ()
      proxyClient := fun _ => .ok ()
      errorText := fun _ => "download failed" }
  exchanges _ _ :=
    { redirects := [], answer := .ok { status := 200, contentLength := none, chunks := [.ok [2]] } }
  debugText text := text
  processId := 1
  sequence := 0
  mkdir _ := none
  stage _ := none
  copy index := if index = 1 then some ⟨.other "no space left on device", none⟩ else none

def twoFiles : List GeoAsset :=
  [⟨"geosite", "geosite.dat", "https://cdn.example/geosite.dat"⟩,
    ⟨"geoip", "geoip.dat", "https://cdn.example/geoip.dat"⟩]

/-- The first file keeps its new content when the second cannot be copied. -/
theorem acquired_not_all_or_nothing :
    ¬AllOrNothing (targetsOf [] (twoFiles.map GeoAsset.toBatch))
      (rootTree.put [] "geosite.dat" [1])
      (acquireGeoAssets secondCopyFails {} twoFiles [] (rootTree.put [] "geosite.dat" [1])) := by
  intro h
  have hfailed : ∃ error, (acquireGeoAssets secondCopyFails {} twoFiles []
      (rootTree.put [] "geosite.dat" [1])).1 = .error error :=
    ⟨.assetIo ["geoip.dat"] (.other "no space left on device"), by decide +kernel⟩
  have hold : (rootTree.put [] "geosite.dat" [1]).fileAt ["geosite.dat"] = some [1] := by
    decide +kernel
  have hnew : (acquireGeoAssets secondCopyFails {} twoFiles []
      (rootTree.put [] "geosite.dat" [1])).2.fileAt ["geosite.dat"] = some [2] := by
    decide +kernel
  have hsame := h.1 hfailed ["geosite.dat"] (by decide)
  rw [hold, hnew] at hsame
  exact absurd hsame (by decide)

end Acquisitions

end AssetCommit
