/-
**Node identities: which hostnames stand for more than one Tailscale identity.**

`identity_resolver.py` makes one node of the local observation, one of each Tailscale peer, and one of
each DHCP lease that no peer was matched with.  The nodes of peers and leases are grouped by hostname,
and all nodes of a group with more than one identity are marked as in conflict.  The local node is put in
front of them afterwards and is in no group.

An observation is modelled by the values under the keys that are read of it, a missing key by the default
it is read with; what these values hold is arbitrary, and reading them can raise.

Main definitions:

* `IdentityResolver.Library`, `IdentityResolver.Observation` — what is used of the standard library, and
  what is resolved;
* `IdentityResolver.peerNode`, `IdentityResolver.leaseNode`, `IdentityResolver.localNode` — the nodes;
* `IdentityResolver.markConflicts` — the groups, and the conflicts among them;
* `IdentityResolver.resolveIdentities` — the resolution;
* `IdentityResolver.ConflictsMarked` — nodes of one hostname with different identities are in conflict.

Main results:

* `IdentityResolver.remote_conflictsMarked` — they are among the nodes of peers and leases;
* `IdentityResolver.conflictsMarked_iff` — when they are for all nodes.
-/

import Wuchang.AdaptiveRuntime
import Wuchang.Buckets

set_option relaxedAutoImplicit false
set_option autoImplicit false

namespace IdentityResolver

open Py
open AdaptiveNetwork (Fault Failure typeError iterate sortedSet getOr contains hashable orElse)

/-! ### The standard library -/

/-- What is read of an address. -/
structure IpAddress where
  isV6 : Bool
  isPrivate : Bool
  isLoopback : Bool
  isLinkLocal : Bool

/-- What the standard library makes of texts and of values that are no texts.  Nothing is assumed about
it. -/
structure Library where
  /-- `str(v)`, when `v` is not a text -/
  reprOf : PyVal → PyStr
  /-- `s.lower()` -/
  lower : PyStr → PyStr
  /-- `ipaddress.ip_address(v)`; nothing for `ValueError` -/
  ipAddress : PyVal → Option IpAddress

/-- `str(v)` -/
def Library.str (lib : Library) : PyVal → PyStr
  | .str s => s
  | v => lib.reprOf v

/-- `raise AttributeError` -/
def attributeError {α : Type} : Except Fault α := .error (.builtin .attributeError)

/-- `s.rstrip(".")` -/
def rstripDots (s : PyStr) : PyStr := s.rdropWhile (· = 46)

/-- `sorted(d.items())` for the lists of texts of texts. -/
def sortedItems (d : List (PyStr × List PyStr)) : List (PyStr × List PyStr) :=
  d.mergeSort fun a b => a.1 ≤ b.1

/-! ### What is resolved -/

/-- The local observation, by what is read of the dictionary. -/
structure Observation where
  hostname : PyVal := lit "LOCALIZED_UNKNOWN"
  machineId : Option PyVal := none
  addresses : PyVal := .list []
  links : PyVal := .list []
  neighbors : PyVal := .list []
  tailscale : PyVal := .dict []

/-- `_stable_candidate_id` -/
def stableCandidateId (parts : List PyVal) : Except Fault PyStr := do
  let kept := parts.filter fun part => part.truthy ∧ ¬part.eq (lit "LOCALIZED_UNKNOWN")
  let texts ← kept.mapM fun part => match part with
    | .str s => .ok s
    | _ => typeError
  let material := (cp "|").intercalate texts
  if material = [] then pure (cp "LOCALIZED_UNKNOWN")
  else do
    let encoded ← encodeUtf8 material
    pure (cp "candidate-node:" ++ (Sha256.hexdigest encoded).take 20)

/-- The addresses of the interfaces, by their kind. -/
structure AddressSets where
  lanIpv4 : List PyVal := []
  tailscaleIpv4 : List PyVal := []
  tailscaleIpv6 : List PyVal := []
  nativeIpv6 : List PyVal := []
  container : List PyVal := []

/-- `s.startswith(...)`, for one of several texts -/
def startsWith (s : PyStr) (starts : List String) : Bool := starts.any fun start => (cp start).isPrefixOf s

/-- One entry of the addresses of an interface. -/
def addAddress (lib : Library) (name : PyVal) (sets : AddressSets) (entry : PyVal) :
    Except Fault AddressSets := do
  let address ← getOr entry "local" .none
  if ¬address.truthy then pure sets
  else match lib.ipAddress address with
  | none => pure sets
  | some ip =>
      if name.eq (lit "tailscale0") then
        pure (if ip.isV6 then { sets with tailscaleIpv6 := sets.tailscaleIpv6 ++ [address] }
          else { sets with tailscaleIpv4 := sets.tailscaleIpv4 ++ [address] })
      else match name with
      | .str name =>
          if startsWith name ["docker", "br-", "veth"] then
            pure { sets with container := sets.container ++ [address] }
          else if ¬ip.isV6 ∧ ip.isPrivate ∧ ¬ip.isLoopback then
            pure { sets with lanIpv4 := sets.lanIpv4 ++ [address] }
          else if ip.isV6 ∧ ¬(ip.isLoopback ∨ ip.isLinkLocal) then
            pure { sets with nativeIpv6 := sets.nativeIpv6 ++ [address] }
          else pure sets
      | _ => attributeError

/-- `_address_sets` -/
def addressSets (lib : Library) (addresses : PyVal) : Except Fault AddressSets := do
  let interfaces ← iterate addresses
  interfaces.foldlM (fun sets interface => do
    let name ← getOr interface "ifname" (lit "")
    let entries ← iterate (← getOr interface "addr_info" (.list []))
    entries.foldlM (addAddress lib name) sets) {}

/-- The interface of a link of the local network that has an address. -/
def lanInterface (link : PyVal) : Except Fault (Option PyVal) := do
  if (← getOr link "ifname" .none).eq (lit "lo") then pure none
  else match ← getOr link "ifname" (lit "") with
  | .str name =>
      if startsWith name ["tailscale", "docker", "br-", "veth"] then pure none
      else if (← getOr link "address" .none).truthy then do
        let interface ← link.at "ifname"
        pure (some interface)
      else pure none
  | _ => attributeError

/-- `_primary_mac` -/
def primaryMac (links : PyVal) : Except Fault PyVal := do
  let interfaces := (← (← iterate links).mapM lanInterface).reduceOption
  let rec first : List PyVal → Except Fault PyVal
    | [] => pure (lit "LOCALIZED_UNKNOWN")
    | link :: rest => do
        let name ← getOr link "ifname" .none
        if ¬hashable name then typeError
        else if interfaces.any (·.eq name) then getOr link "address" (lit "LOCALIZED_UNKNOWN")
        else first rest
  first (← iterate links)

/-- `_peer_list` -/
def peerList (tailscale : Items) : List Items :=
  let dicts (values : List PyVal) : List Items := values.filterMap fun value => match value with
    | .dict items => some items
    | _ => none
  match (getItem tailscale (cp "Peer")).getD (.dict []) with
  | .dict items => dicts (items.map Prod.snd)
  | .list values => dicts values
  | _ => []

/-! ### Nodes -/

/-- The node of the local observation. -/
structure LocalNode where
  nodeId : PyStr
  hostname : PyStr
  machineId : PyVal
  tailscaleIdentity : PyVal
  mac : PyVal
  lanIp : List PyVal
  tailscaleIpv4 : List PyVal
  tailscaleIpv6 : List PyVal
  nativeIpv6 : List PyVal
  serviceIdentity : List String := []
  role : PyVal
  owner : String := "UNKNOWN"
  identityState : String := "OBSERVED_PARTIAL"
  evidenceBasis : List String := ["LOCAL_MACHINE_ID_HASH", "LOCAL_LINKS", "TAILSCALE_SELF"]

/-- The node of a peer or of a lease. -/
structure RemoteNode where
  nodeId : PyStr
  hostname : PyStr
  machineId : String := "UNKNOWN"
  tailscaleIdentity : PyStr
  mac : List PyStr
  lanIp : List PyStr
  tailscaleIpv4 : List PyVal := [lit "UNKNOWN"]
  tailscaleIpv6 : List PyVal := [lit "UNKNOWN"]
  nativeIpv6 : List String := ["UNKNOWN"]
  serviceIdentity : List String := []
  role : PyVal
  owner : String := "UNKNOWN"
  identityState : String := "OBSERVED_PARTIAL"
  online : PyVal := lit "UNKNOWN"
  active : PyVal := lit "UNKNOWN"
  os : PyVal := lit "UNKNOWN"
  lastSeen : PyVal := lit "UNKNOWN"
  evidenceBasis : List String

/-- Names in lower case with what they stand for; of equal names the last one counts. -/
abbrev Hints := List (PyStr × PyVal)

/-- `role_hints.get(name, default)` -/
def Hints.find (hints : Hints) (name : PyStr) (default : PyVal) : PyVal :=
  (hints.reverse.lookup name).getD default

/-- `role_hints or {}`, with its keys in lower case -/
def lowerHints (lib : Library) (roleHints : Hints) : Hints := roleHints.map fun p => (lib.lower p.1, p.2)

/-- `self_ts`, for the Tailscale status. -/
def selfOf (tailscale : Items) : PyVal :=
  orElse ((getItem tailscale (cp "Self")).getD (.dict [])) (.dict [])

/-- The local node. -/
def localNode (lib : Library) (observation : Observation) (tailscale : Items) (hints : Hints)
    (sets : AddressSets) : Except Fault LocalNode := do
  let dnsName ← getOr (selfOf tailscale) "DNSName" (lit "")
  let nodeId ← stableCandidateId
    [observation.hostname, observation.machineId.getD (lit ""), dnsName]
  let identity ← getOr (selfOf tailscale) "DNSName" (lit "LOCALIZED_UNKNOWN")
  let mac ← primaryMac observation.links
  match observation.hostname with
  | .str hostname => pure {
      nodeId := nodeId
      hostname := hostname
      machineId := observation.machineId.getD (lit "LOCALIZED_UNKNOWN")
      tailscaleIdentity := identity
      mac := mac
      lanIp := sets.lanIpv4
      tailscaleIpv4 := sets.tailscaleIpv4
      tailscaleIpv6 := sets.tailscaleIpv6
      nativeIpv6 := sets.nativeIpv6
      role := hints.find (lib.lower hostname) (lit "UNVERIFIED_ROLE") }
  | _ => attributeError

/-- The name and the address of a lease, when it has both. -/
def leaseEntry (lib : Library) (lease : PyVal) : Except Fault (Option (PyStr × PyStr)) := do
  let name := lib.lower (strip (lib.str (← getOr lease "hostname" (lit ""))))
  let address := strip (lib.str (← getOr lease "lan_ip" (lit "")))
  pure (if name ≠ [] ∧ name ≠ cp "*" ∧ address ≠ [] then some (name, address) else none)

/-- `leases_by_name` -/
def leasesByName (lib : Library) (merlin : PyVal) : Except Fault (List (PyStr × List PyStr)) := do
  let leases ← iterate (← getOr (orElse merlin (.dict [])) "leases" (.list []))
  let entries ← leases.mapM (leaseEntry lib)
  pure (Buckets.ofList entries.reduceOption)

/-- The address and the hardware address of a neighbour, when it has both. -/
def neighborEntry (lib : Library) (neighbor : PyVal) : Except Fault (Option (PyStr × PyStr)) := do
  let destination := lib.str (← getOr neighbor "dst" (lit ""))
  let lladdr := lib.str (← getOr neighbor "lladdr" (lit ""))
  pure (if destination ≠ [] ∧ lladdr ≠ [] then some (destination, lladdr) else none)

/-- `neighbors_by_ip`, the last entry first -/
def neighborsByIp (lib : Library) (neighbors : PyVal) : Except Fault (List (PyStr × PyStr)) := do
  let entries ← (← iterate neighbors).mapM (neighborEntry lib)
  pure entries.reduceOption.reverse

/-- The hardware addresses of addresses. -/
def macsOf (neighbors : List (PyStr × PyStr)) (ips : List PyStr) : List PyStr :=
  sortedSet (ips.filterMap fun ip => neighbors.lookup ip)

/-- `texts or ["UNKNOWN"]` -/
def orUnknown (texts : List PyStr) : List PyStr := if texts = [] then [cp "UNKNOWN"] else texts

/-- `str(peer.get("HostName", "LOCALIZED_UNKNOWN"))` -/
def peerHostname (lib : Library) (peer : Items) : PyStr :=
  lib.str ((getItem peer (cp "HostName")).getD (lit "LOCALIZED_UNKNOWN"))

/-- `str(peer.get("DNSName", "")).rstrip(".")` -/
def peerDnsName (lib : Library) (peer : Items) : PyStr :=
  rstripDots (lib.str ((getItem peer (cp "DNSName")).getD (lit "")))

/-- The node of a peer, and the names of leases that it is matched with. -/
def peerNode (lib : Library) (leases : List (PyStr × List PyStr)) (neighbors : List (PyStr × PyStr))
    (hints : Hints) (peer : Items) : Except Fault (RemoteNode × List PyStr) := do
  let dnsName := peerDnsName lib peer
  let dnsLabel := if dnsName = [] then [] else lib.lower (dnsName.takeWhile (· ≠ 46))
  let hostname := peerHostname lib peer
  let matched := [dnsLabel, lib.lower hostname].filter fun name => Buckets.get leases name ≠ []
  let lanIps := sortedSet (matched.flatMap (Buckets.get leases))
  let ips ← iterate (orElse ((getItem peer (cp "TailscaleIPs")).getD (.list [])) (.list []))
  let nodeId ← stableCandidateId [.str dnsName, .str hostname,
    .str (lib.str ((getItem peer (cp "NodeKey")).getD (lit "")))]
  let ipv4 ← ips.filterM fun ip => (contains ip (cp ":")).map (!·)
  let ipv6 ← ips.filterM fun ip => contains ip (cp ":")
  pure ({
    nodeId := nodeId
    hostname := hostname
    tailscaleIdentity := if dnsName = [] then cp "LOCALIZED_UNKNOWN" else dnsName
    mac := orUnknown (macsOf neighbors lanIps)
    lanIp := orUnknown lanIps
    tailscaleIpv4 := ipv4
    tailscaleIpv6 := ipv6
    role := hints.find dnsLabel (hints.find (lib.lower hostname) (lit "UNVERIFIED_ROLE"))
    online := (getItem peer (cp "Online")).getD (.bool false)
    active := (getItem peer (cp "Active")).getD (.bool false)
    os := (getItem peer (cp "OS")).getD (lit "UNKNOWN")
    lastSeen := (getItem peer (cp "LastSeen")).getD (lit "UNKNOWN")
    evidenceBasis := ["TAILSCALE_PEER", "MERLIN_DHCP_LEASE_IF_MATCHED", "LOCAL_NEIGHBOR_IF_MATCHED"] },
    matched)

/-- The node of a lease. -/
def leaseNode (neighbors : List (PyStr × PyStr)) (hints : Hints) (lease : PyStr × List PyStr) :
    Except Fault RemoteNode := do
  let uniqueIps := sortedSet lease.2
  let macs := macsOf neighbors uniqueIps
  let nodeId ← stableCandidateId (.str lease.1 :: macs.map PyVal.str)
  pure {
    nodeId := nodeId
    hostname := lease.1
    tailscaleIdentity := cp "UNKNOWN"
    mac := orUnknown macs
    lanIp := uniqueIps
    role := hints.find lease.1 (lit "UNVERIFIED_ROLE")
    evidenceBasis := ["MERLIN_DHCP_LEASE", "LOCAL_NEIGHBOR_IF_MATCHED"] }

/-! ### Conflicts -/

/-- A conflict that is reported. -/
structure Conflict where
  conflictId : PyStr
  hostname : PyStr
  tailscaleIdentities : List PyStr
  state : String := "CONFLICT"

/-- What a conflict does to a node. -/
def RemoteNode.mark (node : RemoteNode) : RemoteNode :=
  { node with
    identityState := "CONFLICT"
    lanIp := [cp "UNKNOWN_DUE_TO_IDENTITY_CONFLICT"]
    mac := [cp "UNKNOWN_DUE_TO_IDENTITY_CONFLICT"] }

/-- The identities of the nodes at some positions. -/
def identitiesAt (nodes : List RemoteNode) (indexes : List ℕ) : List PyStr :=
  (((indexes.filterMap fun i => nodes[i]?).map RemoteNode.tailscaleIdentity).filter fun identity =>
    identity ≠ cp "LOCALIZED_UNKNOWN").dedup

/-- One turn of the loop over the groups. -/
def markGroup (state : List RemoteNode × List Conflict) (group : PyStr × List ℕ) :
    List RemoteNode × List Conflict :=
  let identities := identitiesAt state.1 group.2
  if identities.length ≤ 1 then state
  else (group.2.foldl (fun nodes i => nodes.modify i RemoteNode.mark) state.1,
    state.2 ++ [{
      conflictId := cp "duplicate-hostname:" ++ group.1
      hostname := group.1
      tailscaleIdentities := identities.mergeSort fun a b => a ≤ b }])

/-- The loop over the groups; `names` are the keys of the nodes. -/
def markConflicts (names : List PyStr) (nodes : List RemoteNode) : List RemoteNode × List Conflict :=
  (Buckets.ofList names.zipIdx).foldl markGroup (nodes, [])

/-- The dictionary `resolve_identities` returns; the local node is the first of its nodes. -/
structure Identities where
  localNode : LocalNode
  remoteNodes : List RemoteNode
  conflicts : List Conflict

/-- `resolve_identities` -/
def resolveIdentities (lib : Library) (observation : Observation) (merlin : PyVal) (roleHints : Hints) :
    Except Fault Identities := do
  let hints := lowerHints lib roleHints
  let sets ← addressSets lib observation.addresses
  match observation.tailscale with
  | .dict tailscale => do
      let localNode ← localNode lib observation tailscale hints sets
      let leases ← leasesByName lib merlin
      let neighbors ← neighborsByIp lib observation.neighbors
      let peers ← (peerList tailscale).mapM (peerNode lib leases neighbors hints)
      let unmatched := (sortedItems leases).filter fun lease => lease.1 ∉ peers.flatMap Prod.snd
      let leaseNodes ← unmatched.mapM (leaseNode neighbors hints)
      let names := peers.map (fun peer => lib.lower peer.1.hostname) ++ unmatched.map Prod.fst
      let marked := markConflicts names (peers.map Prod.fst ++ leaseNodes)
      pure ⟨localNode, marked.1, marked.2⟩
  | _ => attributeError

/-! ### What the marks leave alone -/

/-- A node, or the same node in conflict. -/
def Marked (node node' : RemoteNode) : Prop := node' = node ∨ node' = node.mark

theorem mark_mark (node : RemoteNode) : node.mark.mark = node.mark := rfl

theorem Marked.trans {a b c : RemoteNode} (h : Marked a b) (h' : Marked b c) : Marked a c := by
  rcases h with rfl | rfl
  · exact h'
  · rcases h' with rfl | rfl
    · exact .inr rfl
    · exact .inr (mark_mark a)

theorem Marked.hostname {a b : RemoteNode} (h : Marked a b) : b.hostname = a.hostname := by
  rcases h with rfl | rfl
  · rfl
  · rfl

theorem Marked.tailscaleIdentity {a b : RemoteNode} (h : Marked a b) :
    b.tailscaleIdentity = a.tailscaleIdentity := by
  rcases h with rfl | rfl
  · rfl
  · rfl

theorem Marked.mark_eq {a b : RemoteNode} (h : Marked a b) : b.mark = a.mark := by
  rcases h with rfl | rfl
  · rfl
  · rfl

/-- Nodes, some of them in conflict now. -/
def AllMarked (nodes nodes' : List RemoteNode) : Prop := List.Forall₂ Marked nodes nodes'

theorem AllMarked.refl (nodes : List RemoteNode) : AllMarked nodes nodes := by
  induction nodes with
  | nil => exact .nil
  | cons node nodes ih => exact .cons (.inl rfl) ih

theorem AllMarked.trans {a b c : List RemoteNode} (h : AllMarked a b) (h' : AllMarked b c) :
    AllMarked a c := by
  induction h generalizing c with
  | nil => exact h'
  | cons hnode _ ih =>
      cases h' with
      | cons hnode' hnodes' => exact .cons (hnode.trans hnode') (ih hnodes')

/-- The nodes at a position. -/
theorem AllMarked.getElem? {a b : List RemoteNode} (h : AllMarked a b) (i : ℕ) :
    a[i]? = none ∧ b[i]? = none ∨ ∃ x y, a[i]? = some x ∧ b[i]? = some y ∧ Marked x y := by
  induction h generalizing i with
  | nil => exact .inl ⟨rfl, rfl⟩
  | cons hnode _ ih =>
      cases i with
      | zero => exact .inr ⟨_, _, rfl, rfl, hnode⟩
      | succ i => exact ih i

/-- A node is still there, in conflict or not. -/
theorem AllMarked.exists {a b : List RemoteNode} (h : AllMarked a b) {i : ℕ} {x : RemoteNode}
    (hx : a[i]? = some x) : ∃ y, b[i]? = some y ∧ Marked x y := by
  rcases h.getElem? i with ⟨hnone, -⟩ | ⟨x', y, hx', hy, hxy⟩
  · rw [hx] at hnone
    cases hnone
  · obtain rfl := Option.some.inj (hx.symm.trans hx')
    exact ⟨y, hy, hxy⟩

/-- A node in conflict stays as it is. -/
theorem AllMarked.stays {a b : List RemoteNode} (h : AllMarked a b) {i : ℕ} {x : RemoteNode}
    (hx : a[i]? = some x.mark) : b[i]? = some x.mark := by
  obtain ⟨y, hy, rfl | rfl⟩ := h.exists hx
  · exact hy
  · exact hy

/-- Marks do not change identities. -/
theorem AllMarked.identitiesAt {a b : List RemoteNode} (h : AllMarked a b) (indexes : List ℕ) :
    identitiesAt b indexes = identitiesAt a indexes := by
  have hmap : (indexes.filterMap fun i => b[i]?).map RemoteNode.tailscaleIdentity =
      (indexes.filterMap fun i => a[i]?).map RemoteNode.tailscaleIdentity := by
    rw [List.map_filterMap, List.map_filterMap]
    refine List.filterMap_congr fun i _ => ?_
    rcases h.getElem? i with ⟨ha, hb⟩ | ⟨x, y, ha, hb, hxy⟩
    · rw [ha, hb]
    · rw [ha, hb, Option.map_some, Option.map_some, hxy.tailscaleIdentity]
  rw [IdentityResolver.identitiesAt, hmap, ← IdentityResolver.identitiesAt]

theorem allMarked_modify (nodes : List RemoteNode) (i : ℕ) :
    AllMarked nodes (nodes.modify i RemoteNode.mark) := by
  induction nodes generalizing i with
  | nil => simp [AllMarked]
  | cons node nodes ih =>
      cases i with
      | zero => exact .cons (.inr rfl) (AllMarked.refl nodes)
      | succ i => exact .cons (.inl rfl) (ih i)

/-- The inner loop marks the nodes at its positions, and leaves the others as they are or marks them. -/
theorem markAll_spec (indexes : List ℕ) (nodes : List RemoteNode) :
    AllMarked nodes (indexes.foldl (fun nodes i => nodes.modify i RemoteNode.mark) nodes) ∧
      ∀ i ∈ indexes, ∀ node, nodes[i]? = some node →
        (indexes.foldl (fun nodes i => nodes.modify i RemoteNode.mark) nodes)[i]? = some node.mark := by
  induction indexes generalizing nodes with
  | nil => exact ⟨AllMarked.refl nodes, by simp⟩
  | cons j indexes ih =>
      rw [List.foldl_cons]
      obtain ⟨hall, hmarked⟩ := ih (nodes.modify j RemoteNode.mark)
      have hstep := allMarked_modify nodes j
      refine ⟨hstep.trans hall, fun i hi node hnode => ?_⟩
      rcases List.mem_cons.1 hi with rfl | hi
      · -- the node was marked first, and a further mark changes nothing
        have hfirst : (nodes.modify i RemoteNode.mark)[i]? = some node.mark := by
          rw [List.getElem?_modify_eq, hnode]
          rfl
        exact hall.stays hfirst
      · obtain ⟨y, hy, hxy⟩ := hstep.exists hnode
        rw [hmarked i hi y hy, hxy.mark_eq]

/-- What one turn does: a group with two identities is in conflict then. -/
theorem markGroup_spec (state : List RemoteNode × List Conflict) (group : PyStr × List ℕ) :
    AllMarked state.1 (markGroup state group).1 ∧
      (1 < (identitiesAt state.1 group.2).length → ∀ i ∈ group.2, ∀ node, state.1[i]? = some node →
        (markGroup state group).1[i]? = some node.mark) := by
  rw [markGroup]
  split_ifs with hone
  · exact ⟨AllMarked.refl _, fun hmore => absurd hmore (not_lt.2 hone)⟩
  · exact ⟨(markAll_spec group.2 state.1).1, fun _ => (markAll_spec group.2 state.1).2⟩

/-- What all turns do. -/
theorem markGroups_spec (groups : List (PyStr × List ℕ)) (state : List RemoteNode × List Conflict) :
    AllMarked state.1 (groups.foldl markGroup state).1 ∧
      ∀ group ∈ groups, 1 < (identitiesAt state.1 group.2).length → ∀ i ∈ group.2, ∀ node,
        state.1[i]? = some node → (groups.foldl markGroup state).1[i]? = some node.mark := by
  induction groups generalizing state with
  | nil => exact ⟨AllMarked.refl _, by simp⟩
  | cons first groups ih =>
      rw [List.foldl_cons]
      obtain ⟨hall, hmarked⟩ := ih (markGroup state first)
      obtain ⟨hstep, hfirst⟩ := markGroup_spec state first
      refine ⟨hstep.trans hall, fun group hgroup hmore i hi node hnode => ?_⟩
      rcases List.mem_cons.1 hgroup with rfl | hgroup
      · exact hall.stays (hfirst hmore i hi node hnode)
      · obtain ⟨y, hy, hxy⟩ := hstep.exists hnode
        rw [← hstep.identitiesAt] at hmore
        rw [hmarked group hgroup hmore i hi y hy, hxy.mark_eq]

/-- Nodes under one name with different identities are in conflict. -/
theorem markConflicts_spec (names : List PyStr) (nodes : List RemoteNode) :
    AllMarked nodes (markConflicts names nodes).1 ∧
      ∀ (i j : ℕ) (name : PyStr) (x y : RemoteNode), names[i]? = some name → names[j]? = some name → nodes[i]? = some x →
        nodes[j]? = some y → x.tailscaleIdentity ≠ y.tailscaleIdentity →
        x.tailscaleIdentity ≠ cp "LOCALIZED_UNKNOWN" → y.tailscaleIdentity ≠ cp "LOCALIZED_UNKNOWN" →
        (markConflicts names nodes).1[i]? = some x.mark := by
  obtain ⟨hall, hmarked⟩ := markGroups_spec (Buckets.ofList names.zipIdx) (nodes, [])
  refine ⟨hall, fun i j name x y hi hj hx hy hne hknown hknown' => ?_⟩
  have hmem : ∀ k, names[k]? = some name → k ∈ Buckets.get (Buckets.ofList names.zipIdx) name := by
    intro k hk
    rw [Buckets.get_ofList]
    exact List.mem_map.2 ⟨(name, k), List.mem_filter.2 ⟨List.mem_zipIdx_iff_getElem?.2 hk, by simp⟩, rfl⟩
  have hgroup : (name, Buckets.get (Buckets.ofList names.zipIdx) name) ∈ Buckets.ofList names.zipIdx :=
    Buckets.mem_of_get_ne_nil (List.ne_nil_of_mem (hmem i hi))
  refine hmarked _ hgroup ?_ i (hmem i hi) x hx
  -- the two identities are both among those of the group
  have hidentity : ∀ k z, k ∈ Buckets.get (Buckets.ofList names.zipIdx) name → nodes[k]? = some z →
      z.tailscaleIdentity ≠ cp "LOCALIZED_UNKNOWN" → z.tailscaleIdentity ∈
        identitiesAt nodes (Buckets.get (Buckets.ofList names.zipIdx) name) := by
    intro k z hk hz hz'
    rw [identitiesAt, List.mem_dedup, List.mem_filter]
    exact ⟨List.mem_map.2 ⟨z, List.mem_filterMap.2 ⟨k, hk, hz⟩, rfl⟩, by simpa using hz'⟩
  by_contra hle
  have hx' := hidentity i x (hmem i hi) hx hknown
  have hy' := hidentity j y (hmem j hj) hy hknown'
  obtain ⟨identity, hsingle⟩ := List.length_eq_one_iff.1
    (le_antisymm (not_lt.1 hle) (List.length_pos_of_mem hx'))
  dsimp only at hsingle
  rw [hsingle, List.mem_singleton] at hx' hy'
  exact hne (hx'.trans hy'.symm)

/-! ### Nodes of one hostname -/

/-- What is said about the identity of a node. -/
structure Node where
  hostname : PyStr
  tailscaleIdentity : PyVal
  identityState : String

/-- A node of a peer or of a lease, by its identity. -/
def RemoteNode.node (node : RemoteNode) : Node :=
  ⟨node.hostname, .str node.tailscaleIdentity, node.identityState⟩

/-- `nodes`, by their identities -/
def Identities.nodes (r : Identities) : List Node :=
  ⟨r.localNode.hostname, r.localNode.tailscaleIdentity, r.localNode.identityState⟩ ::
    r.remoteNodes.map RemoteNode.node

/-- The identity without its trailing dots, when it is known. -/
def knownIdentity (identity : PyVal) : Option PyStr :=
  match identity with
  | .str s =>
      if rstripDots s ∈ [[], cp "UNKNOWN", cp "LOCALIZED_UNKNOWN"] then none else some (rstripDots s)
  | _ => none

/-- Two nodes have one hostname and different known identities. -/
def Contradict (lib : Library) (a b : Node) : Prop :=
  lib.lower a.hostname = lib.lower b.hostname ∧ ∃ x y, knownIdentity a.tailscaleIdentity = some x ∧
    knownIdentity b.tailscaleIdentity = some y ∧ x ≠ y

/-- Nodes of one hostname with different known identities are in conflict. -/
def ConflictsMarked (lib : Library) (r : Identities) : Prop :=
  ∀ a ∈ r.nodes, ∀ b ∈ r.nodes, Contradict lib a b →
    a.identityState = "CONFLICT" ∧ b.identityState = "CONFLICT"

/-- No peer has the hostname of the local node and another known identity. -/
def LocalAgrees (lib : Library) (observation : Observation) : Prop :=
  ∀ tailscale hostname, observation.tailscale = .dict tailscale → observation.hostname = .str hostname →
    ∀ peer ∈ peerList tailscale, lib.lower (peerHostname lib peer) = lib.lower hostname →
      ∀ x y, knownIdentity ((selfOf tailscale).get "DNSName") = some x →
        knownIdentity (.str (peerDnsName lib peer)) = some y → x = y

theorem Contradict.symm {lib : Library} {a b : Node} (h : Contradict lib a b) : Contradict lib b a := by
  obtain ⟨hname, x, y, hx, hy, hne⟩ := h
  exact ⟨hname.symm, y, x, hy, hx, hne.symm⟩

theorem knownIdentity_ne {s x : PyStr} (h : knownIdentity (.str s) = some x) :
    s ≠ cp "LOCALIZED_UNKNOWN" ∧ s ≠ cp "UNKNOWN" := by
  have hlocalized : knownIdentity (.str (cp "LOCALIZED_UNKNOWN")) = none := by decide
  have hunknown : knownIdentity (.str (cp "UNKNOWN")) = none := by decide
  constructor
  · rintro rfl
    rw [hlocalized] at h
    cases h
  · rintro rfl
    rw [hunknown] at h
    cases h

section Resolution

variable {lib : Library} {observation : Observation} {merlin : PyVal} {roleHints : Hints}

/-- The hostname and the identity of the node of a peer. -/
theorem of_peerNode {leases : List (PyStr × List PyStr)} {neighbors : List (PyStr × PyStr)} {hints : Hints}
    {peer : Items} {node : RemoteNode} {matched : List PyStr}
    (h : peerNode lib leases neighbors hints peer = .ok (node, matched)) :
    node.hostname = peerHostname lib peer ∧ node.tailscaleIdentity =
      if peerDnsName lib peer = [] then cp "LOCALIZED_UNKNOWN" else peerDnsName lib peer := by
  obtain ⟨ips, -, h⟩ := bind_eq_ok_iff.1 h
  obtain ⟨nodeId, -, h⟩ := bind_eq_ok_iff.1 h
  obtain ⟨ipv4, -, h⟩ := bind_eq_ok_iff.1 h
  obtain ⟨ipv6, -, h⟩ := bind_eq_ok_iff.1 h
  obtain ⟨rfl, -⟩ := Prod.mk.inj (pure_eq_ok_iff.1 h)
  exact ⟨rfl, rfl⟩

theorem of_leaseNode {neighbors : List (PyStr × PyStr)} {hints : Hints} {lease : PyStr × List PyStr}
    {node : RemoteNode} (h : leaseNode neighbors hints lease = .ok node) :
    node.tailscaleIdentity = cp "UNKNOWN" := by
  obtain ⟨nodeId, -, h⟩ := bind_eq_ok_iff.1 h
  obtain rfl := pure_eq_ok_iff.1 h
  rfl

theorem of_localNode {tailscale : Items} {hints : Hints} {sets : AddressSets} {node : LocalNode}
    (h : localNode lib observation tailscale hints sets = .ok node) :
    observation.hostname = .str node.hostname ∧ node.identityState = "OBSERVED_PARTIAL" ∧
      knownIdentity node.tailscaleIdentity = knownIdentity ((selfOf tailscale).get "DNSName") := by
  obtain ⟨dnsName, -, h⟩ := bind_eq_ok_iff.1 h
  obtain ⟨nodeId, -, h⟩ := bind_eq_ok_iff.1 h
  obtain ⟨identity, hidentity, h⟩ := bind_eq_ok_iff.1 h
  obtain ⟨mac, -, h⟩ := bind_eq_ok_iff.1 h
  have hknown : knownIdentity identity = knownIdentity ((selfOf tailscale).get "DNSName") := by
    cases hself : selfOf tailscale with
    | dict items =>
        rw [hself] at hidentity
        obtain rfl := Except.ok.inj hidentity
        change knownIdentity ((getItem items (cp "DNSName")).getD (lit "LOCALIZED_UNKNOWN")) =
          knownIdentity ((getItem items (cp "DNSName")).getD .none)
        cases getItem items (cp "DNSName") with
        | none => decide
        | some v => rfl
    | _ => rw [hself] at hidentity; cases hidentity
  cases hhostname : observation.hostname with
  | str hostname =>
      rw [hhostname] at h
      obtain rfl := pure_eq_ok_iff.1 h
      exact ⟨rfl, rfl, hknown⟩
  | _ => rw [hhostname] at h; cases h

/-- The resolution, by its parts: the local node, and the nodes of peers before those of leases. -/
theorem of_resolveIdentities {r : Identities}
    (h : resolveIdentities lib observation merlin roleHints = .ok r) :
    ∃ (tailscale : Items) (hints : Hints) (sets : AddressSets) (peers : List (RemoteNode × List PyStr))
      (leaseNodes : List RemoteNode) (names : List PyStr), observation.tailscale = .dict tailscale ∧
      localNode lib observation tailscale hints sets = .ok r.localNode ∧
      (∃ leases neighbors, (peerList tailscale).mapM (peerNode lib leases neighbors hints) = .ok peers) ∧
      (∀ node ∈ leaseNodes, node.tailscaleIdentity = cp "UNKNOWN") ∧
      (∀ (i : ℕ) (peer : RemoteNode × List PyStr), peers[i]? = some peer → names[i]? = some (lib.lower peer.1.hostname)) ∧
      r.remoteNodes = (markConflicts names (peers.map Prod.fst ++ leaseNodes)).1 := by
  obtain ⟨sets, -, h⟩ := bind_eq_ok_iff.1 h
  cases htailscale : observation.tailscale with
  | dict tailscale =>
      rw [htailscale] at h
      obtain ⟨localNode, hlocal, h⟩ := bind_eq_ok_iff.1 h
      obtain ⟨leases, -, h⟩ := bind_eq_ok_iff.1 h
      obtain ⟨neighbors, -, h⟩ := bind_eq_ok_iff.1 h
      obtain ⟨peers, hpeers, h⟩ := bind_eq_ok_iff.1 h
      obtain ⟨leaseNodes, hleases, h⟩ := bind_eq_ok_iff.1 h
      obtain rfl := pure_eq_ok_iff.1 h
      refine ⟨tailscale, _, sets, peers, leaseNodes, _, rfl, hlocal, ⟨leases, neighbors, hpeers⟩, ?_, ?_, rfl⟩
      · intro node hnode
        obtain ⟨lease, -, hlease⟩ := (mem_of_mapM hleases).1 hnode
        exact of_leaseNode hlease
      · intro i peer hpeer
        obtain ⟨hi, rfl⟩ := List.getElem?_eq_some_iff.1 hpeer
        rw [List.getElem?_append_left (by simpa using hi), List.getElem?_map, hpeer]
        rfl
  | _ => rw [htailscale] at h; cases h

/-- A node with a known identity is that of a peer, up to marks. -/
theorem of_known {peers : List (RemoteNode × List PyStr)} {leaseNodes nodes : List RemoteNode}
    (hleases : ∀ node ∈ leaseNodes, node.tailscaleIdentity = cp "UNKNOWN")
    (hall : AllMarked (peers.map Prod.fst ++ leaseNodes) nodes) {node : RemoteNode} (hnode : node ∈ nodes)
    {x : PyStr} (hx : knownIdentity (.str node.tailscaleIdentity) = some x) :
    ∃ (i : ℕ) (peer : RemoteNode × List PyStr), peers[i]? = some peer ∧
      (peers.map Prod.fst ++ leaseNodes)[i]? = some peer.1 ∧ nodes[i]? = some node ∧ Marked peer.1 node := by
  obtain ⟨i, hi⟩ := List.getElem?_of_mem hnode
  rcases hall.getElem? i with ⟨-, hnone⟩ | ⟨first, node', hfirst, hnode', hmarked⟩
  · rw [hi] at hnone
    cases hnone
  · obtain rfl := Option.some.inj (hi.symm.trans hnode')
    rw [hmarked.tailscaleIdentity] at hx
    rcases lt_or_ge i peers.length with hlt | hge
    · refine ⟨i, peers[i], List.getElem?_eq_getElem hlt, ?_, hi, ?_⟩
      · rw [List.getElem?_append_left (by simpa using hlt), List.getElem?_map,
          List.getElem?_eq_getElem hlt]
        rfl
      · rw [List.getElem?_append_left (by simpa using hlt), List.getElem?_map,
          List.getElem?_eq_getElem hlt] at hfirst
        obtain rfl := Option.some.inj hfirst
        exact hmarked
    · -- a node of a lease has no known identity
      rw [List.getElem?_append_right (by simpa using hge)] at hfirst
      exact absurd (hleases first (List.mem_of_getElem? hfirst)) (knownIdentity_ne hx).2

/-- Among the nodes of peers and leases, those of one hostname with different known identities are in
conflict. -/
theorem remote_conflictsMarked {r : Identities}
    (h : resolveIdentities lib observation merlin roleHints = .ok r) {a b : RemoteNode}
    (ha : a ∈ r.remoteNodes) (hb : b ∈ r.remoteNodes) (hcontradict : Contradict lib a.node b.node) :
    a.identityState = "CONFLICT" ∧ b.identityState = "CONFLICT" := by
  obtain ⟨tailscale, hints, sets, peers, leaseNodes, names, -, -, -, hleases, hnames, hremote⟩ :=
    of_resolveIdentities h
  obtain ⟨hall, hmarks⟩ := markConflicts_spec names (peers.map Prod.fst ++ leaseNodes)
  rw [hremote] at ha hb
  have hone : ∀ a ∈ (markConflicts names (peers.map Prod.fst ++ leaseNodes)).1,
      ∀ b ∈ (markConflicts names (peers.map Prod.fst ++ leaseNodes)).1, Contradict lib a.node b.node →
        a.identityState = "CONFLICT" := by
    rintro a ha b hb ⟨hname, x, y, hx, hy, hne⟩
    obtain ⟨i, peer, hpeer, hfirst, hi, hmarked⟩ := of_known hleases hall ha hx
    obtain ⟨j, peer', hpeer', hfirst', hj, hmarked'⟩ := of_known hleases hall hb hy
    have hname' : lib.lower peer'.1.hostname = lib.lower peer.1.hostname := by
      rw [← hmarked.hostname, ← hmarked'.hostname]
      exact hname.symm
    rw [RemoteNode.node, hmarked.tailscaleIdentity] at hx
    rw [RemoteNode.node, hmarked'.tailscaleIdentity] at hy
    have hdiffer : peer.1.tailscaleIdentity ≠ peer'.1.tailscaleIdentity := by
      intro heq
      rw [heq] at hx
      exact hne (Option.some.inj (hx.symm.trans hy))
    have hmark := hmarks i j _ peer.1 peer'.1 (hnames i peer hpeer) (hname' ▸ hnames j peer' hpeer')
      hfirst hfirst' hdiffer (knownIdentity_ne hx).1 (knownIdentity_ne hy).1
    obtain rfl := Option.some.inj (hi.symm.trans hmark)
    rfl
  exact ⟨hone a ha b hb hcontradict, hone b hb a ha hcontradict.symm⟩

/-- The local node is in no conflict, so that no peer may contradict it. -/
theorem localAgrees_of_conflictsMarked {r : Identities}
    (h : resolveIdentities lib observation merlin roleHints = .ok r) (hmarked : ConflictsMarked lib r) :
    LocalAgrees lib observation := by
  obtain ⟨tailscale, hints, sets, peers, leaseNodes, names, htailscale, hlocal, ⟨leases, neighbors, hpeers⟩,
    -, -, hremote⟩ := of_resolveIdentities h
  obtain ⟨hall, -⟩ := markConflicts_spec names (peers.map Prod.fst ++ leaseNodes)
  obtain ⟨hhostname, hstate, hself⟩ := of_localNode hlocal
  intro tailscale' hostname htailscale' hhostname' peer hpeer hname x y hx hy
  obtain rfl := PyVal.dict.inj (htailscale.symm.trans htailscale')
  obtain rfl := PyVal.str.inj (hhostname.symm.trans hhostname')
  by_contra hne
  obtain ⟨⟨node, matched⟩, hmem, hnode⟩ := exists_of_mapM hpeers hpeer
  obtain ⟨hnodeName, hidentity⟩ := of_peerNode hnode
  -- the node of the peer is among the nodes of the result
  have hnodes : node ∈ peers.map Prod.fst := List.mem_map_of_mem (f := Prod.fst) hmem
  obtain ⟨i, hi⟩ := List.getElem?_of_mem (List.mem_append_left leaseNodes hnodes)
  obtain ⟨node', hi', hnode'⟩ := hall.exists hi
  rw [← hremote] at hi'
  have hknown : knownIdentity (.str node'.tailscaleIdentity) = some y := by
    have hdns : peerDnsName lib peer ≠ [] := by
      intro hdns
      have hnone : knownIdentity (.str []) = none := by decide
      rw [hdns, hnone] at hy
      cases hy
    rw [hnode'.tailscaleIdentity, hidentity, if_neg hdns]
    exact hy
  have hcontradict : Contradict lib
      ⟨r.localNode.hostname, r.localNode.tailscaleIdentity, r.localNode.identityState⟩ node'.node := by
    refine ⟨?_, x, y, hself.trans hx, hknown, hne⟩
    change lib.lower r.localNode.hostname = lib.lower node'.hostname
    rw [hnode'.hostname, hnodeName]
    exact hname.symm
  have hconflict := (hmarked _ List.mem_cons_self _
    (List.mem_cons_of_mem _ (List.mem_map.2 ⟨node', List.mem_of_getElem? hi', rfl⟩)) hcontradict).1
  change r.localNode.identityState = "CONFLICT" at hconflict
  rw [hstate] at hconflict
  exact absurd hconflict (by decide)

/-- When no peer contradicts the local node, no node of the result does. -/
theorem not_contradict_local {r : Identities}
    (h : resolveIdentities lib observation merlin roleHints = .ok r) (hagrees : LocalAgrees lib observation)
    {b : RemoteNode} (hb : b ∈ r.remoteNodes) : ¬Contradict lib
      ⟨r.localNode.hostname, r.localNode.tailscaleIdentity, r.localNode.identityState⟩ b.node := by
  obtain ⟨tailscale, hints, sets, peers, leaseNodes, names, htailscale, hlocal, ⟨leases, neighbors, hpeers⟩,
    hleases, -, hremote⟩ := of_resolveIdentities h
  obtain ⟨hall, -⟩ := markConflicts_spec names (peers.map Prod.fst ++ leaseNodes)
  obtain ⟨hhostname, -, hself⟩ := of_localNode hlocal
  rintro ⟨hname, x, y, hx, hy, hne⟩
  rw [hremote] at hb
  obtain ⟨i, peer, hpeer, -, -, hmarked⟩ := of_known hleases hall hb hy
  obtain ⟨items, hitems, hnode⟩ := (mem_of_mapM hpeers).1 (List.mem_of_getElem? hpeer)
  obtain ⟨hnodeName, hidentity⟩ := of_peerNode hnode
  have hy' : knownIdentity (.str peer.1.tailscaleIdentity) = some y := by
    rw [← hmarked.tailscaleIdentity]
    exact hy
  have hdns : peerDnsName lib items ≠ [] := by
    intro hdns
    rw [if_pos hdns] at hidentity
    exact (knownIdentity_ne hy').1 hidentity
  rw [hidentity, if_neg hdns] at hy'
  refine hne (hagrees tailscale _ htailscale hhostname items hitems ?_ x y (hself.symm.trans hx) hy')
  rw [← hnodeName, ← hmarked.hostname]
  exact hname.symm

/-- **When all conflicts are marked.**  Any two nodes of one hostname with different known identities are
in conflict if and only if no peer has the hostname of the local node and another known identity. -/
theorem conflictsMarked_iff {r : Identities}
    (h : resolveIdentities lib observation merlin roleHints = .ok r) :
    ConflictsMarked lib r ↔ LocalAgrees lib observation := by
  refine ⟨localAgrees_of_conflictsMarked h, fun hagrees => ?_⟩
  intro a ha b hb hcontradict
  rcases List.mem_cons.1 ha with rfl | ha
  · rcases List.mem_cons.1 hb with rfl | hb
    · obtain ⟨-, x, y, hx, hy, hne⟩ := hcontradict
      exact absurd (Option.some.inj (hx.symm.trans hy)) hne
    · obtain ⟨b, hb', rfl⟩ := List.mem_map.1 hb
      exact absurd hcontradict (not_contradict_local h hagrees hb')
  · obtain ⟨a, ha', rfl⟩ := List.mem_map.1 ha
    rcases List.mem_cons.1 hb with rfl | hb
    · exact absurd hcontradict.symm (not_contradict_local h hagrees ha')
    · obtain ⟨b, hb', rfl⟩ := List.mem_map.1 hb
      exact remote_conflictsMarked h ha' hb' hcontradict

end Resolution

/-! ### The local node and a peer -/

/-- A library that lowers ASCII letters; no value below is an address, or no text. -/
def sampleLibrary : Library where
  reprOf _ := []
  lower := lowerAscii
  ipAddress _ := none

/-- A Tailscale status with one peer. -/
def statusWith (peer : Items) : Items :=
  fields [("Peer", .list [.dict peer]), ("Self", obj [("DNSName", lit "msi.tailnet.ts.net.")])]

/-- A local node with an identity, and one peer. -/
def withPeer (peer : Items) : Observation where
  hostname := lit "msi"
  tailscale := .dict (statusWith peer)

/-- A peer with another hostname. -/
def otherPeer : Items := fields [("DNSName", lit "taiji01.tailnet.ts.net."), ("HostName", lit "taiji01")]

/-- A peer with the hostname of the local node. -/
def samePeer : Items := fields [("DNSName", lit "msi-1.tailnet.ts.net."), ("HostName", lit "MSI")]

theorem peerList_statusWith (peer : Items) : peerList (statusWith peer) = [peer] := by
  simp [peerList, statusWith, getItem_fields_cons]

theorem selfOf_statusWith (peer : Items) :
    selfOf (statusWith peer) = obj [("DNSName", lit "msi.tailnet.ts.net.")] := by
  have hself : getItem (statusWith peer) (cp "Self") = some (obj [("DNSName", lit "msi.tailnet.ts.net.")]) := by
    simp [statusWith, getItem_fields_cons]
  rw [selfOf, hself]
  rfl

/-- Without leases, the resolution returns. -/
theorem resolve_withPeer (items : Items) {peer : RemoteNode × List PyStr}
    (hpeer : peerNode sampleLibrary [] [] [] items = .ok peer) :
    ∃ r, resolveIdentities sampleLibrary (withPeer items) .none [] = .ok r := by
  have hsets : addressSets sampleLibrary (withPeer items).addresses = .ok {} := rfl
  have htailscale : (withPeer items).tailscale = .dict (statusWith items) := rfl
  obtain ⟨node, hlocal⟩ : ∃ node, localNode sampleLibrary (withPeer items) (statusWith items)
      (lowerHints sampleLibrary []) {} = .ok node := by
    rw [localNode, selfOf_statusWith]
    exact ⟨_, rfl⟩
  have hleases : leasesByName sampleLibrary .none = .ok [] := rfl
  have hneighbors : neighborsByIp sampleLibrary (withPeer items).neighbors = .ok [] := rfl
  have hpeers : (peerList (statusWith items)).mapM
      (peerNode sampleLibrary [] [] (lowerHints sampleLibrary [])) = .ok [peer] := by
    have hhints : lowerHints sampleLibrary [] = [] := rfl
    rw [peerList_statusWith, hhints, List.mapM_cons, hpeer]
    rfl
  have hunmatched : sortedItems [] = [] := List.mergeSort_nil
  rw [resolveIdentities, hsets, ok_bind, htailscale]
  dsimp only
  rw [hlocal, ok_bind, hleases, ok_bind, hneighbors, ok_bind, hpeers, ok_bind, hunmatched]
  exact ⟨_, rfl⟩

/-- The peer has another hostname: all conflicts are marked. -/
theorem conflictsMarked_other : ∃ r, resolveIdentities sampleLibrary (withPeer otherPeer) .none [] = .ok r ∧
    ConflictsMarked sampleLibrary r := by
  obtain ⟨peer, hpeer⟩ : ∃ peer, peerNode sampleLibrary [] [] [] otherPeer = .ok peer := ⟨_, rfl⟩
  obtain ⟨r, hr⟩ := resolve_withPeer otherPeer hpeer
  refine ⟨r, hr, (conflictsMarked_iff hr).2 ?_⟩
  intro tailscale hostname htailscale hhostname items hitems hname
  obtain rfl := PyVal.dict.inj htailscale
  obtain rfl := PyVal.str.inj hhostname
  rw [peerList_statusWith] at hitems
  obtain rfl := List.mem_singleton.1 hitems
  exact absurd hname (by decide)

/-- The peer has the hostname of the local node and another identity, and neither is in conflict. -/
theorem not_conflictsMarked_same : ∃ r, resolveIdentities sampleLibrary (withPeer samePeer) .none [] = .ok r ∧
    ¬ConflictsMarked sampleLibrary r := by
  obtain ⟨peer, hpeer⟩ : ∃ peer, peerNode sampleLibrary [] [] [] samePeer = .ok peer := ⟨_, rfl⟩
  obtain ⟨r, hr⟩ := resolve_withPeer samePeer hpeer
  refine ⟨r, hr, fun hmarked => ?_⟩
  have hmem : samePeer ∈ peerList (statusWith samePeer) := by
    rw [peerList_statusWith]
    exact List.mem_singleton_self _
  have hself : knownIdentity ((selfOf (statusWith samePeer)).get "DNSName") =
      some (cp "msi.tailnet.ts.net") := by
    rw [selfOf_statusWith]
    decide
  have heq := localAgrees_of_conflictsMarked hr hmarked _ _ rfl rfl samePeer hmem (by decide)
    (cp "msi.tailnet.ts.net") (cp "msi-1.tailnet.ts.net") hself (by decide)
  exact absurd heq (by decide)

end IdentityResolver
