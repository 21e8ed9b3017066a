import VoyaVPN.FileTree
import VoyaVPN.Download

/-! The acquisition of geo and rule-set assets: every asset is downloaded into a staging directory,
and the whole batch is then copied over the target files. -/
namespace AssetBatch

open RustText FileTree
open Download (Network Exchange DownloadError DownloadRequest DownloadAttempt DownloadOutput)

def rulesetAssetResponseLimitBytes : Nat := 256 * 1024 * 1024

inductive RulesetGeoError where
  | download (error : DownloadError)
  | assetIo (path : Place) (source : IoError)
  | invalidAsset (path : String) (reason : String)
  deriving DecidableEq, Repr

structure AssetAcquisitionOptions where
  preferProxy : Bool := false
  proxyUrl : Option String := none

inductive AcquiredAssetKind where
  | geo
  | ruleset
  deriving DecidableEq, Repr

structure AcquiredRulesetGeoAsset where
  kind : AcquiredAssetKind
  name : String
  fileName : String
  url : String
  path : Place
  bytes : Nat
  usedProxy : Bool
  attempts : List DownloadAttempt
  deriving DecidableEq, Repr

structure GeoAsset where
  name : String
  fileName : String
  url : String
  deriving DecidableEq, Repr

structure SrsAsset where
  kind : String
  name : String
  tag : String
  fileName : String
  url : String
  deriving DecidableEq, Repr

section Paths

inductive Component where
  | rootDir
  | curDir
  | parentDir
  | normal (name : String)
  deriving DecidableEq, Repr

def componentOf (part : String) : Component :=
  if part = ".." then .parentDir else .normal part

/-- `Path::components`: empty parts and later `.` are left out. -/
def components (path : String) : List Component :=
  let parts := split path (· == '/')
  let rest := (parts.filter fun part => part ≠ "" ∧ part ≠ ".").map componentOf
  if startsWith path "/" then .rootDir :: rest
  else if parts.head? = some "." then .curDir :: rest
  else rest

/-- The extension of a file name; one that only begins with a dot has none. -/
def extension (fileName : String) : String :=
  match rsplitOnce fileName '.' with
  | some (stem, extension) => if stem = "" ∨ fileName = ".." then "" else extension
  | none => ""

def pathExtension (path : String) : String :=
  match (components path).getLast? with
  | some (.normal name) => extension name
  | _ => ""

end Paths

/-- What the network and the file system do during one acquisition. `exchanges`, `stage` and
`copy` are about the asset with that number. -/
structure Surroundings where
  network : Network
  exchanges : Nat → Bool → Exchange
  debugText : String → String
  processId : Nat
  sequence : Nat
  mkdir : Place → Option IoError
  stage : Nat → Option WriteFault
  copy : Nat → Option WriteFault

structure BatchAsset where
  name : String
  fileName : String
  url : String
  deriving DecidableEq, Repr

section Acquisition

variable (around : Surroundings) (options : AssetAcquisitionOptions)

def downloadRequest (url : String) : DownloadRequest where
  url := url
  userAgent := some Download.userAgentPrefix
  preferProxy := options.preferProxy
  proxyUrl := options.proxyUrl
  responseBodyLimit := some rulesetAssetResponseLimitBytes

def validateAsset (fileName : String) (body : List Nat) (allowedExtensions : List String) :
    Except RulesetGeoError Nat :=
  match components fileName with
  | [.normal _] =>
    let extension := pathExtension fileName
    if !allowedExtensions.contains extension then
      .error (.invalidAsset fileName ("unexpected extension " ++ around.debugText extension))
    else if body = [] then .error (.invalidAsset fileName "empty file")
    else .ok body.length
  | _ => .error (.invalidAsset fileName "file name must not contain directories")

structure StagedAsset where
  attempts : List DownloadAttempt
  bytes : Nat
  usedProxy : Bool

def stagingName : String :=
  ".voya-stage-" ++ toString around.processId ++ "-" ++ toString around.sequence

def bodyOf (index : Nat) (asset : BatchAsset) :
    Except DownloadError (DownloadOutput (List Nat)) :=
  (Download.downloadBytes around.network (around.exchanges index)
    (downloadRequest options asset.url)).2

/-- The parent of a staged path is the staging directory, which exists. -/
def stageAsset (index : Nat) (asset : BatchAsset) (staging : Place)
    (allowedExtensions : List String) (tree : Tree) : Except RulesetGeoError StagedAsset × Tree :=
  match bodyOf around options index asset with
  | .error error => (.error (.download error), tree)
  | .ok response =>
    match validateAsset around asset.fileName response.body allowedExtensions with
    | .error error => (.error error, tree)
    | .ok bytes =>
      match tree.createDirAll around.mkdir staging with
      | (.error error, tree) => (.error (.assetIo staging error), tree)
      | (.ok (), tree) =>
        match tree.writeFile staging asset.fileName response.body (around.stage index) with
        | (.error error, tree) => (.error (.assetIo (staging ++ [asset.fileName]) error), tree)
        | (.ok (), tree) =>
          (.ok { attempts := response.attempts, bytes := bytes, usedProxy := response.usedProxy },
            tree)

def acquiredAsset (kind : AcquiredAssetKind) (targetDir : Place) (asset : BatchAsset)
    (staged : StagedAsset) : AcquiredRulesetGeoAsset where
  kind := kind
  name := asset.name
  fileName := asset.fileName
  url := asset.url
  path := targetDir ++ [asset.fileName]
  bytes := staged.bytes
  usedProxy := staged.usedProxy
  attempts := staged.attempts

def stageAssets (kind : AcquiredAssetKind) (allowedExtensions : List String)
    (targetDir staging : Place) :
    Nat → List BatchAsset → Tree → Except RulesetGeoError (List AcquiredRulesetGeoAsset) × Tree
  | _, [], tree => (.ok [], tree)
  | index, asset :: assets, tree =>
    match stageAsset around options index asset staging allowedExtensions tree with
    | (.error error, tree) => (.error error, tree)
    | (.ok staged, tree) =>
      match stageAssets kind allowedExtensions targetDir staging (index + 1) assets tree with
      | (.error error, tree) => (.error error, tree)
      | (.ok acquired, tree) => (.ok (acquiredAsset kind targetDir asset staged :: acquired), tree)

def createStaging (targetDir : Place) (tree : Tree) : Except RulesetGeoError Place × Tree :=
  match tree.createDirAll around.mkdir targetDir with
  | (.error error, tree) => (.error (.assetIo targetDir error), tree)
  | (.ok (), tree) =>
    let staging := targetDir ++ [stagingName around]
    match tree.createDirectory targetDir (stagingName around) (around.mkdir staging) with
    | (.error error, tree) => (.error (.assetIo staging error), tree)
    | (.ok (), tree) => (.ok staging, tree)

def commit (targetDir staging : Place) :
    Nat → List String → Tree → Except RulesetGeoError Unit × Tree
  | _, [], tree => (.ok (), tree)
  | index, fileName :: fileNames, tree =>
    match tree.copyFile staging targetDir fileName (around.copy index) with
    | (.error error, tree) => (.error (.assetIo (targetDir ++ [fileName]) error), tree)
    | (.ok (), tree) => commit targetDir staging (index + 1) fileNames tree

def stageAndCommit (kind : AcquiredAssetKind) (allowedExtensions : List String)
    (targetDir staging : Place) (assets : List BatchAsset) (tree : Tree) :
    Except RulesetGeoError (List AcquiredRulesetGeoAsset) × Tree :=
  match stageAssets around options kind allowedExtensions targetDir staging 0 assets tree with
  | (.error error, tree) => (.error error, tree)
  | (.ok acquired, tree) =>
    match commit around targetDir staging 0 (assets.map (·.fileName)) tree with
    | (.error error, tree) => (.error error, tree)
    | (.ok (), tree) => (.ok acquired, tree)

/-- The staging directory goes away on every way out. -/
def acquireAssets (kind : AcquiredAssetKind) (allowedExtensions : List String)
    (assets : List BatchAsset) (targetDir : Place) (tree : Tree) :
    Except RulesetGeoError (List AcquiredRulesetGeoAsset) × Tree :=
  match createStaging around targetDir tree with
  | (.error error, tree) => (.error error, tree)
  | (.ok staging, tree) =>
    let (result, tree) :=
      stageAndCommit around options kind allowedExtensions targetDir staging assets tree
    (result, tree.removeDirAll staging)

def GeoAsset.toBatch (asset : GeoAsset) : BatchAsset := ⟨asset.name, asset.fileName, asset.url⟩

def SrsAsset.toBatch (asset : SrsAsset) : BatchAsset := ⟨asset.tag, asset.fileName, asset.url⟩

def acquireGeoAssets (assets : List GeoAsset) (targetDir : Place) (tree : Tree) :
    Except RulesetGeoError (List AcquiredRulesetGeoAsset) × Tree :=
  acquireAssets around options .geo ["dat", "mmdb", "metadb"] (assets.map GeoAsset.toBatch)
    targetDir tree

def acquireSrsAssets (assets : List SrsAsset) (targetDir : Place) (tree : Tree) :
    Except RulesetGeoError (List AcquiredRulesetGeoAsset) × Tree :=
  acquireAssets around options .ruleset ["srs"] (assets.map SrsAsset.toBatch) targetDir tree

end Acquisition

end AssetBatch
