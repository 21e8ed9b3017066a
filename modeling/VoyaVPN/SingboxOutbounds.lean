import VoyaVPN.SingboxLeaf

/-! The servers of a profile: one for a single profile, and for a policy group or a proxy
chain those of its members, tagged and linked by `detour`. The mutual recursion over nested
groups is bounded by `fuel`; `none` means that it ran out. -/
namespace SingboxOutbounds

open Entities AppConfig RustText ContextBuilder ProtocolCommon SingboxSchema SingboxSupport
open SingboxLeaf

inductive SingboxServer where
  | outbound (o : SingboxOutbound)
  | endpoint (e : SingboxEndpoint)

namespace SingboxServer

def tag : SingboxServer → String
  | .outbound o => o.tag
  | .endpoint e => e.tag

def setTag : SingboxServer → String → SingboxServer
  | .outbound o, tag => .outbound { o with tag }
  | .endpoint e, tag => .endpoint { e with tag }

def detour : SingboxServer → Option String
  | .outbound o => o.detour
  | .endpoint e => e.detour

def setDetour : SingboxServer → String → SingboxServer
  | .outbound o, detour => .outbound { o with detour := some detour }
  | .endpoint e, detour => .endpoint { e with detour := some detour }

def startsWith (s : SingboxServer) (pat : String) : Bool := RustText.startsWith s.tag pat

@[simp] theorem tag_setTag (s : SingboxServer) (t : String) : (s.setTag t).tag = t := by
  cases s <;> rfl

@[simp] theorem tag_setDetour (s : SingboxServer) (d : String) : (s.setDetour d).tag = s.tag := by
  cases s <;> rfl

@[simp] theorem detour_setTag (s : SingboxServer) (t : String) :
    (s.setTag t).detour = s.detour := by
  cases s <;> rfl

@[simp] theorem detour_setDetour (s : SingboxServer) (d : String) :
    (s.setDetour d).detour = some d := by
  cases s <;> rfl

end SingboxServer

def buildProxyServer (crates : Crates) (context : CoreConfigContext) (node : ProfileItem)
    (baseTagName : String) : Option SingboxServer :=
  if node.configType = .wireGuard then
    (buildWireguardEndpoint node).map fun endpoint => .endpoint { endpoint with tag := baseTagName }
  else some (.outbound { buildOutbound crates context node with tag := baseTagName })

abbrev BuildGroup := ProfileItem → String → Option (List SingboxServer)

def memberTag (baseTagName : String) (index : Nat) (remarks : String) : String :=
  baseTagName ++ "-" ++ toString index ++ "-" ++ remarks

def hopTag (baseTagName : String) (index : Nat) (remarks : String) : String :=
  "chain-" ++ baseTagName ++ "-" ++ toString index ++ "-" ++ remarks

/-- The servers of one profile: those of a group, or its own server. -/
def buildChild (crates : Crates) (buildGroup : BuildGroup) (context : CoreConfigContext)
    (node : ProfileItem) (tag : String) : Option (List SingboxServer) :=
  if node.configType.isGroupType then buildGroup node tag
  else some (buildProxyServer crates context node tag).toList

/-- The members from position `index` (counted from zero) on. -/
def buildMembers (crates : Crates) (buildGroup : BuildGroup) (context : CoreConfigContext)
    (baseTagName : String) (single : Bool) :
    Nat → List ProfileItem → Option (List SingboxServer)
  | _, [] => some []
  | index, childNode :: rest =>
    let currentTag :=
      if single then baseTagName else memberTag baseTagName (index + 1) childNode.remarks
    (buildChild crates buildGroup context childNode currentTag).bind fun servers =>
      (buildMembers crates buildGroup context baseTagName single (index + 1) rest).map fun later =>
        servers ++ later

def buildOutboundsList (crates : Crates) (buildGroup : BuildGroup) (context : CoreConfigContext)
    (node : ProfileItem) (baseTagName : String) : Option (List SingboxServer) :=
  let nodes := buildableChildNodes context node
  buildMembers crates buildGroup context baseTagName (nodes.length == 1) 0 nodes

/-- A server without a detour, or with an empty one, gets the next hop's tag. -/
def fillDetour (detourTag : Option String) (s : SingboxServer) : SingboxServer :=
  match detourTag with
  | some detourTag =>
    if (s.detour.map isEmpty).getD true then s.setDetour detourTag else s
  | none => s

/-- The hops built so far, linked one after the other and finally to `startTag`; a hop that
pointed to the group as a whole points to `startTag` instead. -/
def linkClone (currentTag startTag : String) : List SingboxServer → List SingboxServer
  | [] => []
  | s :: rest =>
    let nextTag := match rest with
      | next :: _ => next.tag
      | [] => startTag
    let nextDetour := if s.detour = some currentTag then startTag else nextTag
    s.setDetour nextDetour :: linkClone currentTag startTag rest

def cloneTag (tag : String) (branch : Nat) : String := tag ++ "-clone-" ++ toString branch

def cloneBranch (currentTag : String) (existed : List SingboxServer)
    (start : SingboxServer × Nat) : List SingboxServer :=
  linkClone currentTag start.1.tag
    (existed.map fun s => s.setTag (cloneTag s.tag (start.2 + 1)))

/-- A group behind earlier hops: its members that start the hop replace the group's tag in
the detours of the earlier hops, which are cloned once per member when there are several. -/
def relinkHops (currentTag : String) (result childProfiles : List SingboxServer) :
    List SingboxServer :=
  match childProfiles.filter (·.startsWith currentTag) with
  | [] => result
  | [start] => result.map fun s =>
      if s.detour = some currentTag then s.setDetour start.tag else s
  | starts => starts.zipIdx.flatMap (cloneBranch currentTag result)

/-- The hops from position `index` on, in reverse of the user's order; `result` holds the
servers of the hops before. -/
def buildHops (crates : Crates) (buildGroup : BuildGroup) (context : CoreConfigContext)
    (baseTagName : String) :
    Nat → List ProfileItem → List SingboxServer → Option (List SingboxServer)
  | _, [], result => some result
  | index, childNode :: rest, result =>
    let currentTag :=
      if index = 0 then baseTagName else hopTag baseTagName index childNode.remarks
    let detourTag := rest.head?.map fun next => hopTag baseTagName (index + 1) next.remarks
    if childNode.configType.isGroupType then
      (buildGroup childNode currentTag).bind fun childProfiles =>
        let childProfiles := childProfiles.map (fillDetour detourTag)
        let result := if index ≠ 0 then relinkHops currentTag result childProfiles else result
        buildHops crates buildGroup context baseTagName (index + 1) rest (result ++ childProfiles)
    else
      match buildProxyServer crates context childNode currentTag with
      | none => buildHops crates buildGroup context baseTagName (index + 1) rest result
      | some outbound =>
        let outbound := match detourTag with
          | some detourTag => outbound.setDetour detourTag
          | none => outbound
        buildHops crates buildGroup context baseTagName (index + 1) rest (result ++ [outbound])

def buildChainOutboundsList (crates : Crates) (buildGroup : BuildGroup)
    (context : CoreConfigContext) (node : ProfileItem) (baseTagName : String) :
    Option (List SingboxServer) :=
  buildHops crates buildGroup context baseTagName 0 (buildableChildNodes context node).reverse []

def buildGroupProxyServers (crates : Crates) (context : CoreConfigContext) : Nat → BuildGroup
  | 0, _, _ => none
  | fuel + 1, node, baseTagName =>
    match node.configType with
    | .policyGroup =>
      buildOutboundsList crates (buildGroupProxyServers crates context fuel) context node
        baseTagName
    | .proxyChain =>
      buildChainOutboundsList crates (buildGroupProxyServers crates context fuel) context node
        baseTagName
    | _ => some []

def autoTag (baseTagName : String) : String := baseTagName ++ "-auto"

def buildSelectorServers (node : ProfileItem) (proxyTags : List String) (baseTagName : String) :
    List SingboxServer :=
  let multipleLoad := match node.protocol with
    | .policyGroup _ _ _ strategy => strategy
    | _ => .leastPing
  [.outbound {
      type := "selector"
      tag := baseTagName
      outbounds := some (autoTag baseTagName :: proxyTags)
      interruptExistConnections := some false },
    .outbound {
      type := "urltest"
      tag := autoTag baseTagName
      outbounds := some proxyTags
      interruptExistConnections := some false
      tolerance := if multipleLoad = .fallback then some 5000 else none }]

def orderedProxyTags (servers : List SingboxServer) (baseTagName : String) : List String :=
  ((servers.map SingboxServer.tag).filter fun tag => RustText.startsWith tag baseTagName).eraseDups

/-- Several servers that start with the group's tag get a selector under that tag. -/
def addSelector (node : ProfileItem) (baseTagName : String) (withSelector : Bool)
    (proxyServers : List SingboxServer) : List SingboxServer :=
  let proxyTags := orderedProxyTags proxyServers baseTagName
  if withSelector && decide (1 < proxyTags.length) then
    buildSelectorServers node proxyTags baseTagName ++ proxyServers
  else proxyServers

def buildAllProxyServers (crates : Crates) (fuel : Nat) (context : CoreConfigContext)
    (node : ProfileItem) (baseTagName : String) (withSelector : Bool) :
    Option (List SingboxServer) :=
  (buildChild crates (buildGroupProxyServers crates context fuel) context node baseTagName).map
    (addSelector node baseTagName withSelector)

def serverOutbounds (servers : List SingboxServer) : List SingboxOutbound :=
  servers.filterMap fun
    | .outbound o => some o
    | .endpoint _ => none

def serverEndpoints (servers : List SingboxServer) : List SingboxEndpoint :=
  servers.filterMap fun
    | .outbound _ => none
    | .endpoint e => some e

def prependServers (config : SingboxConfig) (servers : List SingboxServer) : SingboxConfig :=
  { config with
    outbounds := serverOutbounds servers ++ config.outbounds
    endpoints := serverEndpoints servers ++ config.endpoints }

def appendServers (config : SingboxConfig) (servers : List SingboxServer) : SingboxConfig :=
  { config with
    outbounds := config.outbounds ++ serverOutbounds servers
    endpoints := config.endpoints ++ serverEndpoints servers }

def genOutbounds (crates : Crates) (fuel : Nat) (config : SingboxConfig)
    (context : CoreConfigContext) : Option SingboxConfig :=
  (buildAllProxyServers crates fuel context context.node proxyTag true).map
    (prependServers config)

end SingboxOutbounds
