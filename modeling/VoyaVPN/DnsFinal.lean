import VoyaVPN.SingboxDns
import VoyaVPN.UserRuleSoundness

/-! The server unmatched DNS queries go to. The DNS section looks at the last rule of the
routing profile, whether or not the route section takes that rule; unmatched queries stay
with the proxy exactly when the two agree. -/
namespace DnsFinal

open Entities AppConfig RustText ContextBuilder ProtocolCommon SingboxSchema SingboxSupport
open SingboxRouting SingboxDns RuleMatching UserRouteRules UserRuleSoundness

structure AnyHolds (I : Interpretation) : Prop where
  address : I.destination (.ipCidr "0.0.0.0/0")
  portRange : I.portRange "0:65535"
  network : I.network "tcp" ∨ I.network "udp"

def DirectCatchAll (rule : SingboxRule) : Prop :=
  CarriesOutbound directTag rule ∧ ∀ I : Interpretation, AnyHolds I → ruleMatches I rule

/-- The constraints of the user rule leave no connection out. -/
structure UnlimitedConstraints (item : RulesItem) : Prop where
  port : (readPorts item = [] ∧ readPortRanges item = []) ∨ "0:65535" ∈ readPortRanges item
  network : readNetworks item = [] ∨ ("tcp" ∈ readNetworks item ∧ "udp" ∈ readNetworks item)
  protocol : item.protocol.getD [] = []
  inbound : item.inboundTag.getD [] = []

/-- The user rule's entries leave no connection out. -/
def CoversEverything (item : RulesItem) : Prop :=
  UnlimitedConstraints item ∧
    ((negativeIps (ipEntries item) = [] ∧ Destination.ipCidr "0.0.0.0/0" ∈ keptIps item) ∨
      (¬HasTarget item ∧ HasConstraint item))

/-- A connection that satisfies nothing but what stands for any connection, on one network. -/
def plainConnection (network : String) : Interpretation where
  destination d := d = .ipCidr "0.0.0.0/0"
  port _ := False
  portRange range := range = "0:65535"
  network n := n = network
  protocol _ := False
  inbound _ := False
  processName _ := False
  processPath _ := False

/-- A connection that satisfies every condition. -/
def everyReadable : Interpretation where
  destination _ := True
  port _ := True
  portRange _ := True
  network _ := True
  protocol _ := True
  inbound _ := True
  processName _ := True
  processPath _ := True

theorem anyHolds_tcp : AnyHolds (plainConnection "tcp") := ⟨rfl, rfl, Or.inl rfl⟩

theorem anyHolds_udp : AnyHolds (plainConnection "udp") := ⟨rfl, rfl, Or.inr rfl⟩

theorem anyHolds_everyReadable : AnyHolds everyReadable := ⟨trivial, trivial, Or.inl trivial⟩

theorem anyOf_false {α : Type} {items : List α} (h : anyOf (fun _ => False) items) :
    items = [] := by
  rcases h with hnil | ⟨_, _, hfalse⟩
  · exact hnil
  · exact absurd hfalse not_false

theorem network_of_plain {item : RulesItem} {network : String}
    (h : ConstraintsMatch (plainConnection network) item) :
    readNetworks item = [] ∨ network ∈ readNetworks item := by
  rcases h.network with hnil | ⟨n, hn, rfl⟩
  · exact Or.inl hnil
  · exact Or.inr hn

theorem unlimited_of_plain {item : RulesItem}
    (htcp : ConstraintsMatch (plainConnection "tcp") item)
    (hudp : ConstraintsMatch (plainConnection "udp") item) : UnlimitedConstraints item where
  port := by
    rcases htcp.ports with hnil | ⟨p, _, hfalse⟩ | ⟨range, hrange, rfl⟩
    · exact Or.inl hnil
    · exact absurd hfalse not_false
    · exact Or.inr hrange
  network := by
    rcases network_of_plain htcp with hnil | ht
    · exact Or.inl hnil
    rcases network_of_plain hudp with hnil | hu
    · exact Or.inl hnil
    · exact Or.inr ⟨ht, hu⟩
  protocol := anyOf_false htcp.protocol
  inbound := anyOf_false htcp.inbound

theorem constraintsMatch_of_unlimited {item : RulesItem} (h : UnlimitedConstraints item)
    {I : Interpretation} (hI : AnyHolds I) : ConstraintsMatch I item where
  ports := by
    rcases h.port with hnil | hrange
    · exact Or.inl hnil
    · exact Or.inr (Or.inr ⟨_, hrange, hI.portRange⟩)
  network := by
    rcases h.network with hnil | ⟨htcp, hudp⟩
    · exact Or.inl hnil
    rcases hI.network with hn | hn
    · exact Or.inr ⟨_, htcp, hn⟩
    · exact Or.inr ⟨_, hudp, hn⟩
  protocol := Or.inl h.protocol
  inbound := Or.inl h.inbound

theorem keptDomains_not_address {item : RulesItem} {d : Destination} (h : d ∈ keptDomains item) :
    d.isAddress = false := by
  obtain ⟨entry, _, hsome⟩ := List.mem_filterMap.mp h
  exact domainDestination_not_address hsome

/-- One of the rules of a direct user rule takes every connection exactly when the user
rule's entries leave none out. -/
theorem exists_directCatchAll_iff (item : RulesItem) :
    (∃ rule ∈ userRouteRules directTag item, DirectCatchAll rule) ↔ CoversEverything item := by
  constructor
  · rintro ⟨rule, hrule, hcarries, hall⟩
    have htcp := hall _ anyHolds_tcp
    have hudp := hall _ anyHolds_udp
    rcases (mem_userRouteRules directTag item rule).mp hrule with ⟨hd, rfl⟩ | ⟨hneg, hi, rfl⟩ |
      ⟨_, _, _, rfl⟩ | ⟨_, hp, hn, rfl⟩ | ⟨hname, rfl⟩ | ⟨hpath, rfl⟩ | ⟨htarget, hc, rfl⟩
    · obtain ⟨_, d, hmem, rfl⟩ := (ruleMatches_pushAll_base hd).mp htcp
      cases keptDomains_not_address hmem
    · obtain ⟨ht, d, hmem, rfl⟩ := (ruleMatches_pushAll_base hi).mp htcp
      obtain ⟨hu, _⟩ := (ruleMatches_pushAll_base hi).mp hudp
      exact ⟨unlimited_of_plain ht hu, Or.inl ⟨hneg, hmem⟩⟩
    · exact absurd hcarries not_carries_positive
    · obtain ⟨_, hnone⟩ := (ruleMatches_mixed hp hn).mp (hall _ anyHolds_everyReadable)
      obtain ⟨d, hd⟩ := List.exists_mem_of_ne_nil _ hn
      exact absurd ⟨d, hd, trivial⟩ hnone
    · obtain ⟨_, _, _, hfalse⟩ := (ruleMatches_processName hname).mp htcp
      exact absurd hfalse not_false
    · obtain ⟨_, _, _, hfalse⟩ := (ruleMatches_processPath hpath).mp htcp
      exact absurd hfalse not_false
    · exact ⟨unlimited_of_plain (ruleMatches_base.mp htcp) (ruleMatches_base.mp hudp),
        Or.inr ⟨htarget, (hasConstraint_base directTag item).mp hc⟩⟩
  · rintro ⟨hunlimited, ⟨hneg, hmem⟩ | ⟨htarget, hc⟩⟩
    · have hi : keptIps item ≠ [] := List.ne_nil_of_mem hmem
      refine ⟨plainIpRule (baseRule directTag item) item,
        (mem_userRouteRules directTag item _).mpr (Or.inr (Or.inl ⟨hneg, hi, rfl⟩)),
        pushAll_carries _ _ (baseRule_carries directTag item), fun I hI => ?_⟩
      exact (ruleMatches_pushAll_base hi).mpr
        ⟨constraintsMatch_of_unlimited hunlimited hI, _, hmem, hI.address⟩
    · refine ⟨baseRule directTag item, (mem_userRouteRules directTag item _).mpr
        (Or.inr (Or.inr (Or.inr (Or.inr (Or.inr (Or.inr
          ⟨htarget, (hasConstraint_base directTag item).mpr hc, rfl⟩)))))),
        baseRule_carries directTag item, fun I hI => ?_⟩
      exact ruleMatches_base.mpr (constraintsMatch_of_unlimited hunlimited hI)

def LastGiving (items : List RulesItem) (item : RulesItem) : Prop :=
  ∃ before after, items = before ++ item :: after ∧ GivesRules item ∧
    ∀ later ∈ after, ¬GivesRules later

theorem snoc_eq_split {α : Type} {items before after : List α} {last item : α}
    (h : items ++ [last] = before ++ item :: after) :
    (item = last ∧ after = []) ∨
      ∃ after', after = after' ++ [last] ∧ items = before ++ item :: after' := by
  rcases List.eq_nil_or_concat after with rfl | ⟨after', x, rfl⟩
  · obtain ⟨_, hlast⟩ := List.append_inj' h rfl
    exact Or.inl ⟨(List.singleton_inj.mp hlast).symm, rfl⟩
  · have h' : items ++ [last] = (before ++ item :: after') ++ [x] := by simpa using h
    obtain ⟨hitems, hlast⟩ := List.append_inj' h' rfl
    obtain rfl := List.singleton_inj.mp hlast
    exact Or.inr ⟨after', by simp, hitems⟩

theorem lastGiving_append_giving {items : List RulesItem} {last item : RulesItem}
    (h : GivesRules last) : LastGiving (items ++ [last]) item ↔ item = last := by
  constructor
  · rintro ⟨before, after, heq, _, hlater⟩
    rcases snoc_eq_split heq with ⟨hitem, _⟩ | ⟨after', rfl, _⟩
    · exact hitem
    · exact absurd h (hlater last (by simp))
  · rintro rfl
    exact ⟨items, [], rfl, h, fun _ hmem => by cases hmem⟩

/-- The last rule-giving user rule of the route section sends everything directly. -/
def EndsDirect (routing : RoutingItem) : Prop :=
  ∃ item, LastGiving (routedRules routing) item ∧ item.outboundTag = some directTag ∧
    ∃ rule ∈ userRouteRules directTag item, DirectCatchAll rule

def finalServer (crates : Crates) (config : SingboxConfig) (context : CoreConfigContext) :
    Option String :=
  (genDns crates config context).dns.bind (·.finalServer)

/-- Unmatched DNS queries go to the direct server only behind a direct catch-all rule, and
to the remote server otherwise. -/
def NoDnsLeak (crates : Crates) (config : SingboxConfig) (context : CoreConfigContext) : Prop :=
  (finalServer crates config context = some singboxDirectDnsTag →
      ∃ routing, context.routingItem = some routing ∧ EndsDirect routing) ∧
    ((¬∃ routing, context.routingItem = some routing ∧ EndsDirect routing) →
      finalServer crates config context = some singboxRemoteDnsTag)

/-- What the DNS section tests on the last rule. -/
structure SaysDirect (last : RulesItem) : Prop where
  outbound : last.outboundTag = some directTag
  domain : domainEntries last = []
  process : processEntries last = []
  ip : ipEntries last = [] ∨ "0.0.0.0/0" ∈ ipEntries last
  port : last.port = none ∨ last.port = some "" ∨ last.port = some "0-65535"
  network : last.network = none ∨ last.network = some "" ∨ last.network = some "tcp,udp"

/-- The route section takes the rule and turns it into route rules. -/
def IsRouted (item : RulesItem) : Prop :=
  item.enabled = true ∧ item.ruleType ≠ some .dns ∧ GivesRules item

/-- The condition under which no unmatched query leaks: a last rule that looks like a direct
catch-all is one for the route section, or is nothing to it and the rule before is one. -/
def NoLeakWhen (context : CoreConfigContext) : Prop :=
  ∀ routing before last, context.routingItem = some routing →
    routing.ruleSet = before ++ [last] → SaysDirect last →
      (IsRouted last → last.protocol.getD [] = [] ∧ last.inboundTag.getD [] = [] ∧
        negativeIps (ipEntries last) = []) ∧
      (¬IsRouted last → ∃ item, LastGiving (routedRules routing) item ∧
        item.outboundTag = some directTag ∧ CoversEverything item)

theorem isNoneOrEmpty_iff (items : Option (List String)) :
    isNoneOrEmpty items = true ↔ items.getD [] = [] := by
  cases items <;> simp [isNoneOrEmpty]

theorem saysDirect_iff (last : RulesItem) :
    SaysDirect last ↔ last.outboundTag = some directTag ∧
      (isNoneOrEmpty last.domain && isNoneOrEmpty last.process &&
        ((last.ip.map fun ips => ips.isEmpty || ips.contains "0.0.0.0/0").getD true) &&
        ((last.port.map fun port => isEmpty port || port == "0-65535").getD true) &&
        ((last.network.map fun network => isEmpty network || network == "tcp,udp").getD true)) =
          true := by
  have hip : ((last.ip.map fun ips => ips.isEmpty || ips.contains "0.0.0.0/0").getD true) =
      true ↔ ipEntries last = [] ∨ "0.0.0.0/0" ∈ ipEntries last := by
    unfold ipEntries
    cases last.ip <;> simp
  have hport : ((last.port.map fun port => isEmpty port || port == "0-65535").getD true) =
      true ↔ last.port = none ∨ last.port = some "" ∨ last.port = some "0-65535" := by
    cases last.port <;> simp [RustText.isEmpty_iff]
  have hnetwork : ((last.network.map fun network =>
      isEmpty network || network == "tcp,udp").getD true) = true ↔
        last.network = none ∨ last.network = some "" ∨ last.network = some "tcp,udp" := by
    cases last.network <;> simp [RustText.isEmpty_iff]
  rw [Bool.and_eq_true, Bool.and_eq_true, Bool.and_eq_true, Bool.and_eq_true, isNoneOrEmpty_iff,
    isNoneOrEmpty_iff, hip, hport, hnetwork]
  constructor
  · rintro ⟨ho, hd, hpr, hi, hp, hn⟩
    exact ⟨ho, ⟨⟨⟨hd, hpr⟩, hi⟩, hp⟩, hn⟩
  · rintro ⟨ho, ⟨⟨⟨hd, hpr⟩, hi⟩, hp⟩, hn⟩
    exact ⟨ho, hd, hpr, hi, hp, hn⟩

theorem finalDnsUsesDirect_iff (context : CoreConfigContext) :
    finalDnsUsesDirect context = true ↔ ∃ routing before last,
      context.routingItem = some routing ∧ routing.ruleSet = before ++ [last] ∧
        SaysDirect last := by
  unfold finalDnsUsesDirect
  cases hrouting : context.routingItem with
  | none => simp
  | some routing =>
    rcases List.eq_nil_or_concat routing.ruleSet with hnil | ⟨before, last, hlast⟩
    · simp [hnil]
    · have hget : routing.ruleSet.getLast? = some last := by simp [hlast]
      rw [Option.bind_some, hget]
      simp only
      constructor
      · intro h
        by_cases ho : last.outboundTag = some directTag
        · rw [if_neg (not_not.mpr ho)] at h
          exact ⟨routing, before, last, rfl, by simpa using hlast,
            (saysDirect_iff last).mpr ⟨ho, h⟩⟩
        · rw [if_pos ho] at h
          cases h
      · rintro ⟨routing', before', last', hsame, hlast', hlooks⟩
        cases hsame
        have heq : last' = last := by simpa [hlast'] using hget
        subst heq
        obtain ⟨ho, h⟩ := (saysDirect_iff last').mp hlooks
        rw [if_neg (not_not.mpr ho)]
        exact h

theorem finalServer_eq (crates : Crates) (config : SingboxConfig) (context : CoreConfigContext) :
    finalServer crates config context =
      some (if finalDnsUsesDirect context then singboxDirectDnsTag else singboxRemoteDnsTag) :=
  rfl

theorem coversEverything_of_saysDirect {last : RulesItem} (h : SaysDirect last)
    (hgives : GivesRules last) :
    CoversEverything last ↔ last.protocol.getD [] = [] ∧ last.inboundTag.getD [] = [] ∧
      negativeIps (ipEntries last) = [] := by
  have hdomains : keptDomains last = [] := by rw [keptDomains, h.domain]; rfl
  constructor
  · rintro ⟨hunlimited, hcover⟩
    refine ⟨hunlimited.protocol, hunlimited.inbound, ?_⟩
    rcases hcover with ⟨hneg, _⟩ | ⟨htarget, _⟩
    · exact hneg
    · by_contra hneg
      exact htarget (Or.inr (Or.inl hneg))
  · rintro ⟨hprotocol, hinbound, hneg⟩
    refine ⟨⟨?_, ?_, hprotocol, hinbound⟩, ?_⟩
    · unfold readPorts readPortRanges
      rcases h.port with hport | hport | hport <;> rw [hport]
      · exact Or.inl ⟨rfl, rfl⟩
      · exact Or.inl (by decide)
      · exact Or.inr (by decide)
    · unfold readNetworks
      rcases h.network with hnetwork | hnetwork | hnetwork <;> rw [hnetwork]
      · exact Or.inl rfl
      · exact Or.inl (by decide)
      · exact Or.inr (by decide)
    · rcases h.ip with hip | hip
      · right
        have hkept : keptIps last = [] := by rw [keptIps, hip]; rfl
        have hpositive : keptPositive last = [] := by rw [keptPositive, hip]; rfl
        rcases hgives with hd | ⟨_, hi⟩ | ⟨_, hp⟩ | hprocess | hbare
        · exact absurd hdomains hd
        · exact absurd hkept hi
        · exact absurd hpositive hp
        · exact absurd h.process hprocess
        · exact hbare
      · exact Or.inl ⟨hneg, List.mem_filterMap.mpr ⟨"0.0.0.0/0", hip, by decide⟩⟩

/-- Whether the last rule of the profile is routed decides which rule is the last to give
route rules. -/
theorem endsDirect_iff {routing : RoutingItem} {before : List RulesItem} {last : RulesItem}
    (hset : routing.ruleSet = before ++ [last]) (hlast : SaysDirect last) :
    EndsDirect routing ↔
      (IsRouted last → last.protocol.getD [] = [] ∧ last.inboundTag.getD [] = [] ∧
        negativeIps (ipEntries last) = []) ∧
      (¬IsRouted last → ∃ item, LastGiving (routedRules routing) item ∧
        item.outboundTag = some directTag ∧ CoversEverything item) := by
  unfold EndsDirect
  simp only [exists_directCatchAll_iff]
  by_cases hrouted : IsRouted last
  · obtain ⟨henabled, htype, hgives⟩ := hrouted
    have hrules : ∃ earlier, routedRules routing = earlier ++ [last] := by
      refine ⟨before.filter fun item => item.enabled && item.ruleType != some .dns, ?_⟩
      rw [routedRules, hset, List.filter_append]
      simp [henabled, htype]
    obtain ⟨earlier, hrules⟩ := hrules
    simp only [hrules, lastGiving_append_giving hgives]
    have hcovers := coversEverything_of_saysDirect hlast hgives
    constructor
    · rintro ⟨item, rfl, _, hitem⟩
      exact ⟨fun _ => hcovers.mp hitem, fun hnot => absurd ⟨henabled, htype, hgives⟩ hnot⟩
    · rintro ⟨hwhen, _⟩
      exact ⟨last, rfl, hlast.outbound, hcovers.mpr (hwhen ⟨henabled, htype, hgives⟩)⟩
  · simp only [hrouted, false_implies, not_false_eq_true, true_implies, true_and]

/-- Unmatched DNS queries stay with the remote server exactly under the condition. -/
theorem noDnsLeak_iff (crates : Crates) (config : SingboxConfig) (context : CoreConfigContext) :
    NoDnsLeak crates config context ↔ NoLeakWhen context := by
  have hne : singboxRemoteDnsTag ≠ singboxDirectDnsTag := by decide
  rw [NoDnsLeak, finalServer_eq]
  cases hdirect : finalDnsUsesDirect context with
  | true =>
    obtain ⟨routing, before, last, hrouting, hset, hlast⟩ :=
      (finalDnsUsesDirect_iff context).mp hdirect
    have hends := endsDirect_iff hset hlast
    constructor
    · rintro ⟨h, _⟩ routing' before' last' hrouting' hset' hlast'
      obtain ⟨routing'', hsame, hitem⟩ := h rfl
      rw [hrouting'] at hsame
      cases hsame
      exact (endsDirect_iff hset' hlast').mp hitem
    · intro h
      have hitem : ∃ routing, context.routingItem = some routing ∧ EndsDirect routing :=
        ⟨routing, hrouting, hends.mpr (h routing before last hrouting hset hlast)⟩
      exact ⟨fun _ => hitem, fun hnot => absurd hitem hnot⟩
  | false =>
    constructor
    · intro _ routing before last hrouting hset hlast
      have hcontra := (finalDnsUsesDirect_iff context).mpr
        ⟨routing, before, last, hrouting, hset, hlast⟩
      rw [hdirect] at hcontra
      cases hcontra
    · intro _
      exact ⟨fun heq => absurd (Option.some.inj heq) hne, fun _ => rfl⟩

def siteThroughProxy : RulesItem :=
  { outboundTag := some "proxy", domain := some ["geosite:google"] }

/-- A last rule that is switched off still moves unmatched queries to the direct server. -/
def disabledDirect : RulesItem :=
  { outboundTag := some "direct", port := some "0-65535", enabled := false }

theorem noDnsLeak_counterexample :
    ¬NoDnsLeak exampleCrates .sample
      (initialContext (exampleStore [] [siteThroughProxy, disabledDirect]).env {} {}) := by
  rw [noDnsLeak_iff]
  intro h
  have hlast : SaysDirect disabledDirect :=
    ⟨rfl, rfl, rfl, Or.inl rfl, Or.inr (Or.inr rfl), Or.inl rfl⟩
  have hnot : ¬IsRouted disabledDirect := fun hrouted => by cases hrouted.1
  obtain ⟨item, ⟨before, after, heq, _⟩, houtbound, _⟩ :=
    (h { ruleSet := [siteThroughProxy, disabledDirect] } [siteThroughProxy] disabledDirect
      rfl rfl hlast).2 hnot
  have hrules : routedRules { ruleSet := [siteThroughProxy, disabledDirect] } =
      [siteThroughProxy] := by decide
  have hmem : item ∈ [siteThroughProxy] := by
    rw [← hrules, heq]
    simp
  rw [List.mem_singleton.mp hmem] at houtbound
  revert houtbound
  decide

end DnsFinal
