/-
This file tells what the location of a node says about the instances of its region.
-/

import Scaledown.Proofs.Config.Validation
import Scaledown.Proofs.Location.Lookup
import Scaledown.Proofs.Text.Split

namespace Scaledown

open Compute

/-- A name with a dash starts with the name of its partition and a dash. -/
theorem partitionOf_dash_prefix {hostname : String} (dashed : '-' ∈ hostname.toList) :
    (partitionOf hostname ++ "-").toList <+: hostname.toList := by
  obtain ⟨front, final, found, whole, -⟩ := Text.exists_cutLast? dashed
  refine ⟨final, ?_⟩
  rw [partitionOf, beforeLastDash, found, whole]
  simp

/-- A name without a dash is the name of its partition. -/
theorem partitionOf_eq_self {hostname : String} (plain : '-' ∉ hostname.toList) :
    partitionOf hostname = hostname := by
  rw [partitionOf, beforeLastDash, Text.cutLast?_eq_none plain]

/-- No name starts with itself and a dash. -/
theorem not_dash_prefix_self (name : String) : ¬ (name ++ "-").toList <+: name.toList := by
  intro start
  have longer := start.length_le
  simp at longer

/-- Whenever the provider lists instances, it lists exactly those of the region whose names start
with the name part and a dash. -/
def Provider.ListsByName {World : Type} (provider : Provider World)
    (instances : String → Set Instance) : Prop :=
  ∀ ⦃time region namePart before listed after⦄,
    provider.listInstances time region namePart before = some (.ok listed, after) →
      ∀ found, found ∈ listed ↔
        found ∈ instances region ∧ (namePart ++ "-").toList <+: found.name.toList

namespace Location

/-- A node is in the zone of an instance of its name. A node with a dash in its name is gone only
if there is no such instance, but a node without one is taken for gone in any case. -/
structure Finds (instances : Set Instance) (region : String) (events : List Event)
    (hostname : String) (result : Except Suspend.Error Location) : Prop where
  placed : ∀ zone, result = .ok (.inZone zone) →
    ∃ found ∈ instances, found.name = hostname ∧ found.zoneName = zone
  gone : '-' ∈ hostname.toList → result = .ok .absent →
    ∀ found ∈ instances, found.name ≠ hostname
  unseen : '-' ∉ hostname.toList → ∀ location, result = .ok location → location = .absent
  unanswered : ∀ error, result = .error error → ∃ reason,
    .listInstances region (partitionOf hostname) (.error reason) ∈ events ∧
      error = .lookup (partitionOf hostname) reason.message

theorem Listing.locate_finds {listing : Listing} {instances : Set Instance}
    {events : List Event} {hostname : String} (same : partitionOf hostname = listing.partition)
    (called : listing.event ∈ events)
    (lists : ∀ listed, listing.answer = .ok listed → ∀ found, found ∈ listed ↔
      found ∈ instances ∧ (listing.partition ++ "-").toList <+: found.name.toList) :
    Finds instances listing.region events hostname (listing.locate hostname) := by
  obtain ⟨region, name, answer⟩ := listing
  obtain rfl : partitionOf hostname = name := same
  cases answer with
  | error reason =>
    refine ⟨by simp [locate], by simp [locate], by simp [locate], ?_⟩
    rintro error ⟨⟩
    exact ⟨reason, called, rfl⟩
  | ok listed =>
    have told := lists listed rfl
    cases last : (listed.filter fun found => found.name = hostname).getLast? with
    | some found =>
      have located : (Listing.mk region (partitionOf hostname) (.ok listed)).locate hostname =
          .ok (.inZone found.zoneName) := by
        simp [locate, last]
      obtain ⟨inside, named⟩ := List.mem_filter.1 (List.mem_of_getLast? last)
      have named : found.name = hostname := of_decide_eq_true named
      obtain ⟨present, start⟩ := (told found).1 inside
      rw [located]
      refine ⟨?_, by simp, fun plain => ?_, by simp⟩
      · rintro zone ⟨⟩
        exact ⟨found, present, named, rfl⟩
      · -- A name without a dash is its own partition, so it is never listed for it.
        rw [partitionOf_eq_self plain, named] at start
        exact absurd start (not_dash_prefix_self hostname)
    | none =>
      have located : (Listing.mk region (partitionOf hostname) (.ok listed)).locate hostname =
          .ok .absent := by
        simp [locate, last]
      rw [located]
      refine ⟨by simp, fun dashed _ found present named => ?_, by simp, by simp⟩
      have start : (partitionOf hostname ++ "-").toList <+: found.name.toList := by
        rw [named]
        exact partitionOf_dash_prefix dashed
      have inside : found ∈ listed.filter fun found => found.name = hostname :=
        List.mem_filter.2 ⟨(told found).2 ⟨present, start⟩, decide_eq_true named⟩
      rw [List.getLast?_eq_none_iff.1 last] at inside
      cases inside

variable {World : Type} {collaborators : Collaborators World}

/-- What was listed during a run is what the provider answered. -/
theorem exists_listInstances {session last : Session World} {listings : List Listing}
    (performed : Performs collaborators session (listings.map Listing.event) last)
    {listing : Listing} (inside : listing ∈ listings) :
    ∃ time before after,
      collaborators.provider.listInstances time listing.region listing.partition before =
        some (listing.answer, after) := by
  have answered : Justified (fun _ event => ∃ time before after,
      collaborators.Answers time event before after) [] (listings.map Listing.event) :=
    performed.justified fun _ given => ⟨_, _, _, given⟩
  obtain ⟨-, time, before, after, given⟩ := answered.of_mem (List.mem_map_of_mem inside)
  exact ⟨time, before, after, given⟩

/-- With a valid configuration and a provider that lists by name, a resolver finds the nodes of
regional partitions, except that it takes every node without a dash in its name for gone. -/
theorem resolveAll_finds_dashed_nodes {config : Config} {instances : String → Set Instance}
    {hostnames : List String} {results : List (Except Suspend.Error Location)}
    {known : Inventories} {session last : Session World} (valid : config.validate = .ok ())
    (honest : collaborators.provider.ListsByName instances)
    (done : resolveAll collaborators config hostnames [] session =
      some ((results, known), last)) :
    ∀ hostname result partition, (hostname, result) ∈ hostnames.zip results →
      config.partition (partitionOf hostname) = .ok partition →
        partition.regionalCapacity = true →
          ∃ region, partition.effectiveRegion? = some region ∧
            Finds (instances region) region last.events hostname result := by
  intro hostname result partition inside found regional
  have placed := (Config.validate_eq_ok_iff.1 valid).isPlaced found
  rw [Partition.IsPlaced, if_pos regional] at placed
  obtain ⟨region, placed⟩ := Option.isSome_iff_exists.1 placed
  have needed : question? config hostname = some (region, partitionOf hostname) := by
    simp [question?, found, regional, placed]
  have fresh : Asks config [] [] := rfl
  obtain ⟨listings, performed, -, -, told⟩ := resolveAll_asks fresh done
  have located := List.forall₂_iff_zip.1 told
  refine ⟨region, placed, ?_⟩
  cases located.2 inside with
  | fixed site =>
    rw [question?_eq_none_iff.2 ⟨_, site⟩] at needed
    cases needed
  | @listed listing present asked =>
    obtain ⟨rfl, name⟩ := Prod.mk.inj (Option.some.inj (needed.symm.trans asked))
    obtain ⟨time, before, after, answered⟩ := exists_listInstances performed present
    apply Listing.locate_finds name
    · rw [performed.events_eq]
      exact List.mem_append_right _ (List.mem_map_of_mem present)
    · intro listed same
      rw [same] at answered
      exact honest answered

/-- This provider lists a stock of instances by name. -/
def stocked (stock : String → List Instance) : Collaborators Unit where
  provider := {
    deleteInstances := fun _ _ world => some (.ok [], world)
    waitOperation := fun _ operation world => some (.ok operation, world)
    listInstances := fun _ region namePart world =>
      some (.ok ((stock region).filter fun found =>
        (namePart ++ "-").toList.isPrefixOf found.name.toList), world)
    deleteResourcePolicy := fun _ _ name world => some (.ok (.pending name), world) }
  scheduler := {
    expandHostlist := fun _ world => some (.ok [], world)
    updateNodes := fun _ _ _ world => some (.ok (), world) }
  accelerator := { delete := fun _ _ world => some (.ok (), world) }

theorem listsByName_stocked (stock : String → List Instance) :
    (stocked stock).provider.ListsByName fun region => {found | found ∈ stock region} := by
  rintro time region namePart before listed after ⟨⟩ found
  simp [List.isPrefixOf_iff_prefix]

/-- One partition may place its nodes in a whole region. -/
def soloPartition : Config :=
  { sharedRegion with
    partitions := [("solo", { Partition.empty with
      region := some "us", regionalCapacity := true })] }

/-- One of the instances is named like its partition. -/
def soloStock (_ : String) : List Instance :=
  [⟨"solo", "zones/us-b", none⟩, ⟨"solo-1", "zones/us-c", none⟩]

theorem resolveAll_finds_dashed_nodes_soloStock :
    soloPartition.validate = .ok () ∧
      (stocked soloStock).provider.ListsByName (fun region => {found | found ∈ soloStock region}) ∧
      ∃ results known last,
        resolveAll (stocked soloStock) soloPartition ["solo-1", "solo"] [] (.start ()) =
          some ((results, known), last) ∧
        results = [.ok (.inZone "us-c"), .ok .absent] ∧
        ∃ region, Finds {found | found ∈ soloStock region} region last.events "solo-1"
          (.ok (.inZone "us-c")) := by
  have valid : soloPartition.validate = .ok () := by
    decide +kernel
  have read : (resolveAll (stocked soloStock) soloPartition ["solo-1", "solo"] []
      (.start ())).map (fun final => final.1.1) = some [.ok (.inZone "us-c"), .ok .absent] := by
    decide +kernel
  obtain ⟨⟨⟨results, known⟩, last⟩, done, same⟩ := Option.map_eq_some_iff.1 read
  obtain rfl : results = [.ok (.inZone "us-c"), .ok .absent] := same
  have finds := resolveAll_finds_dashed_nodes valid (listsByName_stocked soloStock) done
  obtain ⟨region, -, found⟩ := finds "solo-1" (.ok (.inZone "us-c")) _ (by simp) rfl rfl
  exact ⟨valid, listsByName_stocked soloStock, _, known, last, done, rfl, region, found⟩

/-- A node without a dash in its name is taken for gone while its instance is there. -/
theorem undashed_node_is_taken_for_gone :
    soloPartition.validate = .ok () ∧
      (stocked soloStock).provider.ListsByName (fun region => {found | found ∈ soloStock region}) ∧
      (∃ partition, soloPartition.partition (partitionOf "solo") = .ok partition ∧
        partition.regionalCapacity = true ∧ partition.effectiveRegion? = some "us") ∧
      (∃ found ∈ soloStock "us", found.name = "solo") ∧
      ∃ known last, resolve (stocked soloStock) soloPartition "solo" [] (.start ()) =
        some ((.ok .absent, known), last) := by
  have read : (resolve (stocked soloStock) soloPartition "solo" [] (.start ())).map
      (fun final => final.1.1) = some (.ok .absent) := by
    decide +kernel
  obtain ⟨⟨⟨result, known⟩, last⟩, done, same⟩ := Option.map_eq_some_iff.1 read
  obtain rfl : result = .ok .absent := same
  exact ⟨by decide +kernel, listsByName_stocked soloStock, ⟨_, rfl, rfl, rfl⟩,
    ⟨_, List.mem_cons_self, rfl⟩, known, last, done⟩

end Location

end Scaledown
