/-
This file describes how the nodes of the batched path are located.
-/

import Scaledown.Proofs.Deletion.Round
import Scaledown.Proofs.Suspend.Selection

namespace Scaledown.Suspend

open Compute

/-- A sighting is a node with the answer to where it is. -/
abbrev Sighting := String × Except Suspend.Error Location

namespace Sighting

def request? : Sighting → Option DeleteRequest
  | (hostname, .ok (.inZone zone)) => some ⟨hostname, zone⟩
  | _ => none

def absent? : Sighting → Option String
  | (hostname, .ok .absent) => some hostname
  | _ => none

def lost? : Sighting → Option (String × String)
  | (hostname, .error error) => some (hostname, error.message)
  | _ => none

theorem request?_eq_some {sighting : Sighting} {request : DeleteRequest} :
    request? sighting = some request ↔
      sighting = (request.hostname, .ok (.inZone request.zone)) := by
  obtain ⟨hostname, result⟩ := sighting
  obtain ⟨host, zone⟩ := request
  match result with
  | .ok (.inZone place) => simp [request?]
  | .ok .absent => simp [request?]
  | .error error => simp [request?]

theorem absent?_eq_some {sighting : Sighting} {hostname : String} :
    absent? sighting = some hostname ↔ sighting = (hostname, .ok .absent) := by
  obtain ⟨host, result⟩ := sighting
  match result with
  | .ok (.inZone place) => simp [absent?]
  | .ok .absent => simp [absent?]
  | .error error => simp [absent?]

theorem lost?_eq_some {sighting : Sighting} {entry : String × String} :
    lost? sighting = some entry ↔
      ∃ error, sighting = (entry.1, .error error) ∧ error.message = entry.2 := by
  obtain ⟨hostname, result⟩ := sighting
  obtain ⟨host, reason⟩ := entry
  match result with
  | .ok (.inZone place) => simp [lost?]
  | .ok .absent => simp [lost?]
  | .error error => simp [lost?, and_comm]

end Sighting

/-- Every sighting gives a request, an absent node or a failure. -/
theorem sightings_divide (sightings : List Sighting) :
    ((sightings.filterMap Sighting.request?).map DeleteRequest.hostname ++
      sightings.filterMap Sighting.absent? ++
      (sightings.filterMap Sighting.lost?).map Prod.fst).Perm (sightings.map Prod.fst) := by
  have divided := filterMap_divide_perm Prod.fst
    (fun sighting => (Sighting.request? sighting).map DeleteRequest.hostname) Sighting.absent?
    (fun sighting => (Sighting.lost? sighting).map Prod.fst) sightings (by
      rintro ⟨hostname, result⟩ -
      match result with
      | .ok (.inZone zone) => rfl
      | .ok .absent => rfl
      | .error error => rfl)
  simpa [List.map_filterMap] using divided

/-- The requested hosts were sighted, and none of them is requested twice. -/
theorem requested_hosts {sightings : List Sighting} (distinct : (sightings.map Prod.fst).Nodup) :
    (Deletion.hostsOf (sightings.filterMap Sighting.request?)).Nodup ∧
      Deletion.hostsOf (sightings.filterMap Sighting.request?) ⊆ sightings.map Prod.fst := by
  have divided := sightings_divide sightings
  rw [List.append_assoc] at divided
  exact ⟨(List.nodup_append.1 (divided.nodup_iff.2 distinct)).1,
    fun _ inside => divided.subset (List.mem_append_left _ inside)⟩

namespace Located

/-- The sightings are kept apart by their answers, in order. -/
def ofSightings (sightings : List Sighting) : Located where
  requests := sightings.filterMap Sighting.request?
  absent := sightings.filterMap Sighting.absent?
  failed := sightings.filterMap Sighting.lost?

theorem add_eq (located : Located) (sighting : Sighting) :
    located.add sighting.1 sighting.2 =
      ⟨located.requests ++ (Sighting.request? sighting).toList,
        located.absent ++ (Sighting.absent? sighting).toList,
        located.failed.putAll (Sighting.lost? sighting).toList⟩ := by
  obtain ⟨hostname, result⟩ := sighting
  match result with
  | .ok (.inZone zone) => simp [add, Sighting.request?, Sighting.absent?, Sighting.lost?,
      Table.putAll]
  | .ok .absent => simp [add, Sighting.request?, Sighting.absent?, Sighting.lost?, Table.putAll]
  | .error error => simp [add, Sighting.request?, Sighting.absent?, Sighting.lost?, Table.putAll]

theorem add_ofSightings (earlier : List Sighting) (sighting : Sighting)
    (distinct : ((earlier ++ [sighting]).map Prod.fst).Nodup) :
    (ofSightings earlier).add sighting.1 sighting.2 = ofSightings (earlier ++ [sighting]) := by
  have divided := sightings_divide (earlier ++ [sighting])
  have fresh := (List.sublist_append_right _ _).nodup (divided.nodup_iff.2 distinct)
  have failed := Table.putAll_filterMap_concat Sighting.lost? earlier sighting fresh
  simp only [add_eq, ofSightings, failed]
  simp [List.filterMap_eq_flatMap_toList]

end Located

variable {World : Type} {collaborators : Collaborators World} {session last : Session World}

/-- Distinct nodes are located in order, and what is known at the end tells all their places. -/
theorem locateAll_performs (earlier : List Sighting) {config : Config}
    {hostnames : List String} {known : Location.Inventories} {located : Located}
    (distinct : (earlier.map Prod.fst ++ hostnames).Nodup)
    (done : locateAll collaborators config hostnames known (.ofSightings earlier) session =
      some (located, last)) :
    ∃ (sightings : List Sighting) (listings : List Location.Listing)
      (later : Location.Inventories), sightings.map Prod.fst = hostnames ∧
      Performs collaborators session (listings.map Location.Listing.event) last ∧
      located = .ofSightings (earlier ++ sightings) ∧
      Location.Learns config known listings later ∧
      ∀ sighting ∈ sightings, Location.located? config later sighting.1 = some sighting.2 := by
  induction hostnames generalizing earlier known session with
  | nil =>
    obtain ⟨rfl, rfl⟩ := Step.pure_eq_some.1 done
    exact ⟨[], [], known, rfl, .nothing _, by simp, .nothing _, by simp⟩
  | cons hostname hostnames ih =>
    simp only [locateAll, Step.bind_eq_some] at done
    obtain ⟨⟨result, known'⟩, middle, asked, done⟩ := done
    obtain ⟨former, performed, learns, told⟩ := Location.resolve_performs asked
    have next : ((earlier ++ [(hostname, result)]).map Prod.fst ++ hostnames).Nodup := by
      simpa using distinct
    rw [Located.add_ofSightings earlier (hostname, result)
      ((List.sublist_append_left _ _).nodup next)] at done
    obtain ⟨sightings, latter, later, rfl, rest, rfl, learned, tell⟩ := ih _ next done
    refine ⟨(hostname, result) :: sightings, former ++ latter, later, rfl, ?_, by simp,
      learns.trans learned, ?_⟩
    · simpa using performed.trans rest
    · intro sighting inside
      rcases List.mem_cons.1 inside with rfl | inside
      · exact learned.located?_eq_some told
      · exact tell sighting inside

end Scaledown.Suspend
