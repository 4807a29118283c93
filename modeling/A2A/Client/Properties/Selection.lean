import A2A.Client.Factory
import A2A.Library.Codec

namespace A2A.Client

open Library Card

/-! The transport that a client factory builds speaks the version of the interface it picked. -/

variable {toUpperCase : String → String}

/-- The interfaces for a binding, in the order of the card. -/
def forBinding (toUpperCase : String → String) (key : String) (interfaces : List AgentInterface) :
    List AgentInterface :=
  interfaces.filter (fun i => toUpperCase i.protocolBinding = key)

@[simp] theorem mem_forBinding {key : String} {interfaces : List AgentInterface} {i : AgentInterface} :
    i ∈ forBinding toUpperCase key interfaces ↔ i ∈ interfaces ∧ toUpperCase i.protocolBinding = key := by
  simp [forBinding]

/-- What one more interface makes of the best one so far. -/
def better (existing : Option AgentInterface) (i : AgentInterface) : Option AgentInterface :=
  if existing.isNone || i.protocolVersion = "1.0" then some i else existing

/-- An interface of today's version, or the first one where there is none of it. -/
structure Best (candidates : List AgentInterface) (chosen : AgentInterface) : Prop where
  member : chosen ∈ candidates
  preferred : chosen.protocolVersion = "1.0" ∨
    (∀ candidate ∈ candidates, candidate.protocolVersion ≠ "1.0") ∧ candidates.head? = some chosen

theorem Best.current {candidates : List AgentInterface} {chosen other : AgentInterface}
    (best : Best candidates chosen) (member : other ∈ candidates) (current : other.protocolVersion = "1.0") :
    chosen.protocolVersion = "1.0" :=
  best.preferred.resolve_right fun none => none.1 other member current

theorem foldl_better (candidates : List AgentInterface) :
    (candidates = [] ∧ candidates.foldl better none = none) ∨
      ∃ chosen, candidates.foldl better none = some chosen ∧ Best candidates chosen := by
  induction candidates using List.reverseRecOn with
  | nil => exact .inl ⟨rfl, rfl⟩
  | append_singleton earlier last ih =>
      refine .inr ?_
      rw [List.foldl_append]
      rcases ih with ⟨rfl, empty⟩ | ⟨chosen, kept, best⟩
      · refine ⟨last, rfl, by simp, ?_⟩
        by_cases current : last.protocolVersion = "1.0"
        · exact .inl current
        · exact .inr ⟨by simpa using current, rfl⟩
      · rw [kept]
        by_cases current : last.protocolVersion = "1.0"
        · exact ⟨last, by simp [better, current], by simp, .inl current⟩
        · refine ⟨chosen, by simp [better, current], List.mem_append_left _ best.member, ?_⟩
          rcases best.preferred with chosenCurrent | ⟨none, first⟩
          · exact .inl chosenCurrent
          · refine .inr ⟨fun candidate member => ?_, by simp [first]⟩
            rcases List.mem_append.mp member with old | new
            · exact none candidate old
            · rw [List.mem_singleton.mp new]
              exact current

theorem get?_keepBest (best : CaseInsensitiveMap AgentInterface) (i : AgentInterface) (key : String) :
    (ClientFactory.keepBest toUpperCase best i).get? key =
      if toUpperCase i.protocolBinding = key then better (best.get? key) i else best.get? key := by
  unfold ClientFactory.keepBest
  by_cases kept :
      ((best.get toUpperCase i.protocolBinding).isNone || decide (i.protocolVersion = "1.0")) = true
  · rw [if_pos kept, CaseInsensitiveMap.put, OrderedMap.get?_set]
    by_cases own : toUpperCase i.protocolBinding = key
    · subst own
      rw [if_pos rfl, if_pos rfl]
      exact (if_pos kept).symm
    · rw [if_neg own, if_neg own]
  · rw [if_neg kept]
    by_cases own : toUpperCase i.protocolBinding = key
    · subst own
      rw [if_pos rfl]
      exact (if_neg kept).symm
    · rw [if_neg own]

theorem get?_bestInterfacePerProtocol (interfaces : List AgentInterface) (key : String) :
    (ClientFactory.bestInterfacePerProtocol toUpperCase interfaces).get? key =
      (forBinding toUpperCase key interfaces).foldl better none := by
  suffices general : ∀ best : CaseInsensitiveMap AgentInterface,
      (interfaces.foldl (ClientFactory.keepBest toUpperCase) best).get? key =
        (forBinding toUpperCase key interfaces).foldl better (best.get? key) from general .empty
  induction interfaces with
  | nil => exact fun best => rfl
  | cons i rest ih =>
      intro best
      rw [List.foldl_cons, ih, get?_keepBest]
      by_cases own : toUpperCase i.protocolBinding = key <;> simp [forBinding, own]

/-- The interface that is found again by binding and url has the version of the one it is to match. -/
theorem pickMatchingInterface_version {agentCard : Card.AgentCard} {binding : String}
    {chosen : AgentInterface}
    (best : Best (forBinding toUpperCase (toUpperCase binding) agentCard.supportedInterfaces) chosen) :
    ∃ matched, pickMatchingInterface toUpperCase agentCard binding chosen.url = some matched ∧
      matched.protocolVersion = chosen.protocolVersion := by
  have byUrl : chosen ∈ (forBinding toUpperCase (toUpperCase binding) agentCard.supportedInterfaces).filter
      (fun i => i.url = chosen.url) := List.mem_filter.mpr ⟨best.member, by simp⟩
  have nonempty := List.isEmpty_eq_false_iff.mpr (List.ne_nil_of_mem byUrl)
  simp only [pickMatchingInterface]
  rw [← forBinding, nonempty]
  simp only [Bool.false_eq_true, if_false]
  cases found : List.find? (fun i => decide (i.protocolVersion = "1.0"))
      ((forBinding toUpperCase (toUpperCase binding) agentCard.supportedInterfaces).filter
        (fun i => i.url = chosen.url)) with
  | some current =>
      have version : current.protocolVersion = "1.0" := by simpa using List.find?_some found
      have member := (List.mem_filter.mp (List.mem_of_find?_eq_some found)).1
      exact ⟨current, rfl, version.trans (best.current member version).symm⟩
  | none =>
      have old : chosen.protocolVersion ≠ "1.0" := by simpa using List.find?_eq_none.mp found chosen byUrl
      obtain ⟨-, first⟩ := best.preferred.resolve_left old
      obtain ⟨others, candidates⟩ := List.head?_eq_some_iff.mp first
      exact ⟨chosen, by simp [candidates], rfl⟩

namespace Transport

def endpoint : Transport → String
  | jsonRpc endpoint | legacyJsonRpc endpoint | rest endpoint | legacyRest endpoint => endpoint
  | tenant transport _ => transport.endpoint

def isLegacy : Transport → Bool
  | jsonRpc _ | rest _ => false
  | legacyJsonRpc _ | legacyRest _ => true
  | tenant transport _ => transport.isLegacy

/-- The name of the protocol that a transport speaks. -/
def protocolName : Transport → String
  | jsonRpc _ | legacyJsonRpc _ => "JSONRPC"
  | rest _ | legacyRest _ => "HTTP+JSON"
  | tenant transport _ => transport.protocolName

/-- A transport for an interface: of the factory's protocol, at its url, in its version. -/
structure Speaks (factory : TransportFactory) (chosen : AgentInterface) (transport : Transport) : Prop where
  protocol : transport.protocolName = factory.protocolName
  endpoint : transport.endpoint = chosen.url
  version : transport.isLegacy = Compat.isLegacyVersion chosen.protocolVersion

end Transport

theorem create_speaks {factory : TransportFactory} {agentCard : Card.AgentCard} {chosen : AgentInterface}
    (enabled : factory.legacyCompat = true)
    (best : Best (forBinding toUpperCase (toUpperCase factory.protocolName) agentCard.supportedInterfaces)
      chosen) :
    (factory.create toUpperCase chosen.url agentCard).Speaks factory chosen := by
  obtain ⟨matched, found, version⟩ := pickMatchingInterface_version best
  have legacy : (factory.legacyCompat &&
      (pickMatchingInterface toUpperCase agentCard factory.protocolName chosen.url).any
        (fun iface => Compat.isLegacyVersion iface.protocolVersion)) =
      Compat.isLegacyVersion chosen.protocolVersion := by
    rw [enabled, found, Option.any_some, version, Bool.true_and]
  cases factory <;> simp only [TransportFactory.create, legacy] <;>
    cases speaks : Compat.isLegacyVersion chosen.protocolVersion <;>
      exact ⟨rfl, rfl, by simp [speaks, Transport.isLegacy]⟩

theorem get?_registerAll {result map : CaseInsensitiveMap TransportFactory} {transports : List TransportFactory}
    (registered : registerAll toUpperCase result transports = .ok map) (key : String)
    (factory : TransportFactory) :
    map.get? key = some factory ↔
      result.get? key = some factory ∨ factory ∈ transports ∧ toUpperCase factory.protocolName = key := by
  induction transports generalizing result with
  | nil =>
      cases registered
      simp
  | cons transport rest ih =>
      simp only [registerAll] at registered
      split at registered
      · contradiction
      · rename_i fresh
        have unset : result.get? (toUpperCase transport.protocolName) = none := by
          simpa [CaseInsensitiveMap.get] using fresh
        rw [ih registered, CaseInsensitiveMap.put, OrderedMap.get?_set, List.mem_cons]
        by_cases own : toUpperCase transport.protocolName = key
        · subst own
          rw [if_pos rfl, unset, Option.some.injEq]
          grind
        · rw [if_neg own]
          grind

theorem new_registered {options : ClientFactoryOptions} {factory : ClientFactory}
    (built : ClientFactory.new toUpperCase options = .ok factory) :
    factory.options = options ∧
      registerAll toUpperCase .empty options.transports = .ok factory.transportsByName := by
  unfold ClientFactory.new at built
  split at built
  · contradiction
  · obtain ⟨byName, registered, chosen⟩ := bind_eq_ok.mp built
    split at chosen
    · cases chosen
    · cases chosen
      exact ⟨rfl, registered⟩

section

variable {options : ClientFactoryOptions} {factory : ClientFactory} {interfaces : List AgentInterface}

/-- The bindings in the order of preference, and behind it in the order of the card. -/
def preference (options : ClientFactoryOptions) (interfaces : List AgentInterface) : List String :=
  options.preferredTransports.getD [] ++ interfaces.map AgentInterface.protocolBinding

/-- A binding that has both a registered factory and an interface on the card. -/
def Available (toUpperCase : String → String) (options : ClientFactoryOptions)
    (interfaces : List AgentInterface) (name : String) : Prop :=
  (∃ transport ∈ options.transports, toUpperCase transport.protocolName = toUpperCase name) ∧
    ∃ i ∈ interfaces, toUpperCase i.protocolBinding = toUpperCase name

/-- A factory and an interface for the first available binding, the interface of today's
version where the card lists one for it. -/
def Selected (toUpperCase : String → String) (options : ClientFactoryOptions)
    (interfaces : List AgentInterface) (transport : TransportFactory) (chosen : AgentInterface) : Prop :=
  ∃ before name after, preference options interfaces = before ++ name :: after ∧
    (∀ earlier ∈ before, ¬ Available toUpperCase options interfaces earlier) ∧
    transport ∈ options.transports ∧ toUpperCase transport.protocolName = toUpperCase name ∧
    chosen ∈ interfaces ∧ toUpperCase chosen.protocolBinding = toUpperCase name ∧
    ∀ other ∈ interfaces, toUpperCase other.protocolBinding = toUpperCase name →
      other.protocolVersion = "1.0" → chosen.protocolVersion = "1.0"

/-- What the loop over the preferred transports looks up for one of them. -/
def lookUp (toUpperCase : String → String) (factory : ClientFactory) (interfaces : List AgentInterface)
    (transportName : String) : Option (TransportFactory × AgentInterface) :=
  match factory.transportsByName.get toUpperCase transportName,
    (ClientFactory.bestInterfacePerProtocol toUpperCase interfaces).get toUpperCase transportName with
  | some transport, some selectedInterface => some (transport, selectedInterface)
  | _, _ => none

theorem lookUp_eq_some (built : ClientFactory.new toUpperCase options = .ok factory) {name : String}
    {transport : TransportFactory} {chosen : AgentInterface}
    (found : lookUp toUpperCase factory interfaces name = some (transport, chosen)) :
    transport ∈ options.transports ∧ toUpperCase transport.protocolName = toUpperCase name ∧
      Best (forBinding toUpperCase (toUpperCase name) interfaces) chosen := by
  obtain ⟨-, registered⟩ := new_registered built
  unfold lookUp at found
  split at found
  · rename_i transport' chosen' byName best
    cases found
    have known := (get?_registerAll registered (toUpperCase name) transport).mp byName
    rw [OrderedMap.get?_empty] at known
    obtain ⟨member, same⟩ := known.resolve_left (by simp)
    refine ⟨member, same, ?_⟩
    rw [CaseInsensitiveMap.get, get?_bestInterfacePerProtocol] at best
    rcases foldl_better (forBinding toUpperCase (toUpperCase name) interfaces) with
      ⟨-, empty⟩ | ⟨kept, folded, isBest⟩
    · rw [empty] at best
      cases best
    · rw [folded] at best
      cases best
      exact isBest
  · contradiction

theorem lookUp_eq_none (built : ClientFactory.new toUpperCase options = .ok factory) {name : String}
    (missing : lookUp toUpperCase factory interfaces name = none) :
    ¬ Available toUpperCase options interfaces name := by
  rintro ⟨⟨transport, registeredIn, same⟩, i, member, binding⟩
  obtain ⟨-, registered⟩ := new_registered built
  have byName : factory.transportsByName.get? (toUpperCase name) = some transport :=
    (get?_registerAll registered (toUpperCase name) transport).mpr (.inr ⟨registeredIn, same⟩)
  rcases foldl_better (forBinding toUpperCase (toUpperCase name) interfaces) with
    ⟨empty, -⟩ | ⟨kept, folded, -⟩
  · exact List.ne_nil_of_mem (mem_forBinding.mpr ⟨member, binding⟩) empty
  · rw [← get?_bestInterfacePerProtocol] at folded
    simp only [lookUp, CaseInsensitiveMap.get, byName, folded] at missing
    contradiction

/-- The transport that is created for a card is one for the selected interface, of the version
that this interface has, and there is none only where no binding is available. -/
theorem createFromNormalizedAgentCard_speaks
    (built : ClientFactory.new toUpperCase options = .ok factory)
    (enabled : ∀ transport ∈ options.transports, transport.legacyCompat = true)
    (agentCard : Card.AgentCard) :
    (∀ transportFactory chosen,
      factory.select toUpperCase agentCard.supportedInterfaces = some (transportFactory, chosen) →
        Selected toUpperCase options agentCard.supportedInterfaces transportFactory chosen ∧
        ∃ transport, factory.createFromNormalizedAgentCard toUpperCase agentCard = .ok transport ∧
          transport.Speaks transportFactory chosen) ∧
    (factory.select toUpperCase agentCard.supportedInterfaces = none →
      (∀ name ∈ preference options agentCard.supportedInterfaces,
        ¬ Available toUpperCase options agentCard.supportedInterfaces name) ∧
      factory.createFromNormalizedAgentCard toUpperCase agentCard =
        .error ("No compatible transport found, available transports: " ++ factory.transportsByName.joined)) := by
  obtain ⟨sameOptions, -⟩ := new_registered built
  have order : factory.transportsByPreference agentCard.supportedInterfaces =
      preference options agentCard.supportedInterfaces := by
    rw [ClientFactory.transportsByPreference, sameOptions, preference]
  constructor
  · intro transportFactory chosen selected
    obtain ⟨before, name, after, split, found, blocked⟩ := List.findSome?_eq_some_iff.mp selected
    obtain ⟨member, same, best⟩ := lookUp_eq_some built found
    obtain ⟨listed, binding⟩ := mem_forBinding.mp best.member
    refine ⟨⟨before, name, after, order ▸ split, fun earlier early => lookUp_eq_none built (blocked earlier early),
      member, same, listed, binding, fun other otherListed otherBinding current =>
        best.current (mem_forBinding.mpr ⟨otherListed, otherBinding⟩) current⟩, ?_⟩
    have speaks := create_speaks (enabled transportFactory member) (same ▸ best)
    by_cases untenanted : chosen.tenant = ""
    · exact ⟨_, by simp only [ClientFactory.createFromNormalizedAgentCard, selected, if_pos untenanted], speaks⟩
    · exact ⟨.tenant _ chosen.tenant,
        by simp only [ClientFactory.createFromNormalizedAgentCard, selected, if_neg untenanted],
        speaks.protocol, speaks.endpoint, speaks.version⟩
  · intro nothing
    refine ⟨fun name member => lookUp_eq_none built ?_,
      by simp only [ClientFactory.createFromNormalizedAgentCard, nothing]⟩
    exact List.findSome?_eq_none_iff.mp nothing name (order ▸ member)

/-- `toUpperCase` on a text of ASCII characters. -/
def asciiUpperCase (text : String) : String := String.ofList (text.toList.map Char.toUpper)

/-- A card that lists both bindings at one url, in different versions. -/
def sharedUrlCard : Card.AgentCard :=
  .ofInterfaces [⟨"https://agent.example", "JSONRPC", "", "1.0"⟩,
    ⟨"https://agent.example", "HTTP+JSON", "", "0.3"⟩]

/-- With REST preferred, the interface for REST is the one that the transport speaks to. -/
theorem sharedUrlCard_speaks :
    ∃ factory transport,
      ClientFactory.new asciiUpperCase ⟨[.jsonRpc true, .rest true], some ["HTTP+JSON"]⟩ = .ok factory ∧
      factory.createFromNormalizedAgentCard asciiUpperCase sharedUrlCard = .ok transport ∧
      transport.Speaks (.rest true) ⟨"https://agent.example", "HTTP+JSON", "", "0.3"⟩ := by
  refine ⟨⟨⟨[.jsonRpc true, .rest true], some ["HTTP+JSON"]⟩,
    (OrderedMap.empty.set "JSONRPC" (.jsonRpc true)).set "HTTP+JSON" (.rest true)⟩, ?_⟩
  have built : ClientFactory.new asciiUpperCase ⟨[.jsonRpc true, .rest true], some ["HTTP+JSON"]⟩ =
      .ok ⟨⟨[.jsonRpc true, .rest true], some ["HTTP+JSON"]⟩,
        (OrderedMap.empty.set "JSONRPC" (.jsonRpc true)).set "HTTP+JSON" (.rest true)⟩ := by rfl
  obtain ⟨-, transport, created, speaks⟩ := (createFromNormalizedAgentCard_speaks built (by decide) sharedUrlCard).1
    (.rest true) ⟨"https://agent.example", "HTTP+JSON", "", "0.3"⟩ (by rfl)
  exact ⟨transport, built, created, speaks⟩

end

end A2A.Client
