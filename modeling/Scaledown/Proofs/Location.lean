/-
This file describes how the zones of nodes are found with the listings of their partitions.
-/

import Scaledown.Location
import Scaledown.Proofs.Session.Trace
import Scaledown.Proofs.Table

namespace Scaledown.Location

open Compute

/-- A listing is a question about one partition with its answer. -/
structure Listing where
  region : String
  partition : String
  answer : Except Compute.Error (List Instance)

namespace Listing

def event (listing : Listing) : Event :=
  .listInstances listing.region listing.partition listing.answer

/-- Only regional partitions are listed, and each one in its own region. -/
def Suits (listing : Listing) (config : Config) : Prop :=
  ∃ partition, config.partition listing.partition = .ok partition ∧
    partition.regionalCapacity ∧ partition.effectiveRegion? = some listing.region

end Listing

/-- The configuration tells where a node is, or in which region to look for it. -/
inductive Site where
  | fixed (result : Except Suspend.Error Location)
  | listed (region : String)

def siteOf (config : Config) (hostname : String) : Site :=
  match config.partition (partitionOf hostname) with
  | .error error => .fixed (.error (.config error))
  | .ok partition =>
    if partition.regionalCapacity then
      match partition.effectiveRegion? with
      | none => .fixed (.error (.config (.regionRequired (partitionOf hostname))))
      | some region => .listed region
    else
      match partition.zone with
      | none => .fixed (.error (.config (.zoneRequired (partitionOf hostname))))
      | some zone => .fixed (.ok (.inZone zone))

/-- The known inventories tell where a node is, unless its partition is not yet listed. -/
def located? (config : Config) (known : Inventories) (hostname : String) :
    Option (Except Suspend.Error Location) :=
  match siteOf config hostname with
  | .fixed result => some result
  | .listed _ =>
    (known.find? (partitionOf hostname)).map (inInventory (partitionOf hostname) hostname)

theorem suits_of_siteOf {config : Config} {hostname region : String}
    (site : siteOf config hostname = .listed region)
    (answer : Except Compute.Error (List Instance)) :
    Listing.Suits ⟨region, partitionOf hostname, answer⟩ config := by
  unfold siteOf at site
  split at site
  · cases site
  · rename_i partition here
    split at site
    · rename_i regional
      split at site
      · cases site
      · rename_i placed
        obtain rfl := Site.listed.inj site
        exact ⟨partition, here, regional, placed⟩
    · split at site <;> cases site

/-- The listing of a partition was made in the region where its nodes are looked for. -/
theorem region_of_suits {config : Config} {listing : Listing} {hostname region : String}
    (suits : listing.Suits config) (same : listing.partition = partitionOf hostname)
    (site : siteOf config hostname = .listed region) : listing.region = region := by
  obtain ⟨partition, found, regional, placed⟩ := suits
  rw [same] at found
  simp only [siteOf, found, regional, if_true, placed] at site
  exact Site.listed.inj site

/-- A later table keeps every inventory and adds only inventories of these listings. -/
structure Learns (config : Config) (known : Inventories) (listings : List Listing)
    (later : Inventories) : Prop where
  suits : ∀ listing ∈ listings, listing.Suits config
  keeps : ∀ name found, known.find? name = some found → later.find? name = some found
  adds : ∀ name found, later.find? name = some found → known.find? name = some found ∨
    ∃ listing ∈ listings, listing.partition = name ∧ inventoryOf listing.answer = found

namespace Learns

variable {config : Config} {known middle later : Inventories} {former latter : List Listing}

theorem nothing (known : Inventories) : Learns config known [] known :=
  ⟨by simp, fun _ _ found => found, fun _ _ found => .inl found⟩

theorem trans (one : Learns config known former middle)
    (two : Learns config middle latter later) :
    Learns config known (former ++ latter) later where
  suits listing inside := (List.mem_append.1 inside).elim (one.suits _) (two.suits _)
  keeps name found present := two.keeps _ _ (one.keeps _ _ present)
  adds name found present := by
    rcases two.adds name found present with held | ⟨listing, inside, tells⟩
    · rcases one.adds name found held with old | ⟨listing, inside, tells⟩
      · exact .inl old
      · exact .inr ⟨listing, List.mem_append_left _ inside, tells⟩
    · exact .inr ⟨listing, List.mem_append_right _ inside, tells⟩

/-- An answer that was found stays the same when more is known. -/
theorem located?_eq_some {hostname : String} {result : Except Suspend.Error Location}
    (learns : Learns config known former later)
    (found : located? config known hostname = some result) :
    located? config later hostname = some result := by
  unfold located? at found ⊢
  cases site : siteOf config hostname with
  | fixed fixedResult => simpa [site] using found
  | listed region =>
    simp only [site] at found
    obtain ⟨inventory, present, rfl⟩ := Option.map_eq_some_iff.1 found
    simp [learns.keeps _ _ present]

/-- The configuration or one of the listings has told where a node is. -/
theorem fixed_or_listed {hostname : String} {result : Except Suspend.Error Location}
    (learns : Learns config [] former later)
    (found : located? config later hostname = some result) :
    siteOf config hostname = .fixed result ∨
      ∃ listing ∈ former, listing.partition = partitionOf hostname ∧
        inInventory (partitionOf hostname) hostname (inventoryOf listing.answer) = result := by
  unfold located? at found
  cases site : siteOf config hostname with
  | fixed fixedResult =>
    rw [site] at found
    exact .inl (congrArg Site.fixed (Option.some.inj found))
  | listed region =>
    simp only [site] at found
    obtain ⟨inventory, present, same⟩ := Option.map_eq_some_iff.1 found
    rcases learns.adds _ _ present with none | ⟨listing, inside, partition, rfl⟩
    · cases none
    · exact .inr ⟨listing, inside, partition, same⟩

end Learns

/-- The configuration never tells that a node is gone. -/
theorem siteOf_ne_absent {config : Config} {hostname : String} :
    siteOf config hostname ≠ .fixed (.ok .absent) := by
  unfold siteOf
  cases config.partition (partitionOf hostname) with
  | error error => simp
  | ok partition =>
    dsimp only
    cases partition.regionalCapacity <;> cases partition.effectiveRegion? <;>
      cases partition.zone <;> simp

/-- A node is gone exactly when no instance of its name is listed. -/
theorem inInventory_eq_absent_iff {partition hostname : String}
    {answer : Except Compute.Error (List Instance)} :
    inInventory partition hostname (inventoryOf answer) = .ok .absent ↔
      ∃ listed, answer = .ok listed ∧ ∀ found ∈ listed, found.name ≠ hostname := by
  cases answer with
  | error reason => simp [inventoryOf, inInventory]
  | ok listed =>
    have unlisted : (zonesOf listed).find? hostname = none ↔
        ∀ found ∈ listed, found.name ≠ hostname := by
      rw [zonesOf, Table.find?_putAll_eq_none_iff]
      simp
    simp only [inventoryOf, inInventory, Except.ok.injEq, exists_eq_left', ← unlisted]
    cases (zonesOf listed).find? hostname <;> simp

/-- Only a failed listing fails a node that is looked for in it. -/
theorem inInventory_eq_error {partition hostname : String} {error : Suspend.Error}
    {answer : Except Compute.Error (List Instance)}
    (missed : inInventory partition hostname (inventoryOf answer) = .error error) :
    ∃ reason, answer = .error reason ∧ error = .lookup partition reason.message := by
  cases answer with
  | error reason => exact ⟨reason, rfl, (Except.error.inj missed).symm⟩
  | ok listed =>
    unfold inInventory inventoryOf at missed
    dsimp only at missed
    split at missed <;> cases missed

variable {World : Type} {collaborators : Collaborators World} {session last : Session World}

/-- Only a node that has to be looked for needs an inventory. -/
theorem resolve_eq (config : Config) (hostname : String) (known : Inventories) :
    resolve collaborators config hostname known =
      match siteOf config hostname with
      | .fixed result => return (result, known)
      | .listed region => do
        let (found, later) ← inventory collaborators (partitionOf hostname) region known
        return (inInventory (partitionOf hostname) hostname found, later) := by
  unfold resolve siteOf
  dsimp only
  cases config.partition (partitionOf hostname) with
  | error error => rfl
  | ok partition =>
    dsimp only
    cases partition.regionalCapacity with
    | true => cases partition.effectiveRegion? <;> rfl
    | false => cases partition.zone <;> rfl

/-- A partition that is not yet known is listed once. -/
theorem inventory_performs {config : Config} {hostname region : String}
    {known later : Inventories} {found : Inventory}
    (site : siteOf config hostname = .listed region)
    (done : inventory collaborators (partitionOf hostname) region known session =
      some ((found, later), last)) :
    ∃ listings : List Listing,
      Performs collaborators session (listings.map Listing.event) last ∧
      Learns config known listings later ∧ later.find? (partitionOf hostname) = some found := by
  cases present : known.find? (partitionOf hostname) with
  | some held =>
    simp only [inventory, present] at done
    obtain ⟨rfl, rfl, rfl⟩ := Step.pure_pair_eq_some.1 done
    exact ⟨[], .nothing _, .nothing _, present⟩
  | none =>
    simp only [inventory, present, Step.bind_eq_some] at done
    obtain ⟨answer, middle, asked, done⟩ := done
    obtain ⟨rfl, rfl, rfl⟩ := Step.pure_pair_eq_some.1 done
    refine ⟨[⟨region, partitionOf hostname, answer⟩],
      Collaborators.listInstances_performs asked, ?_, Table.find?_put_self _ _ _⟩
    refine ⟨?_, fun other held old => ?_, fun other held new => ?_⟩
    · simpa using suits_of_siteOf site answer
    · have differs : other ≠ partitionOf hostname := by
        rintro rfl
        simp [present] at old
      rwa [Table.find?_put_of_ne _ _ differs]
    · by_cases same : other = partitionOf hostname
      · subst same
        rw [Table.find?_put_self] at new
        exact .inr ⟨_, List.mem_singleton_self _, rfl, Option.some.inj new⟩
      · rw [Table.find?_put_of_ne _ _ same] at new
        exact .inl new

/-- A node is located by what is known after at most one listing. -/
theorem resolve_performs {config : Config} {hostname : String} {known later : Inventories}
    {result : Except Suspend.Error Location}
    (done : resolve collaborators config hostname known session =
      some ((result, later), last)) :
    ∃ listings : List Listing,
      Performs collaborators session (listings.map Listing.event) last ∧
      Learns config known listings later ∧ located? config later hostname = some result := by
  rw [resolve_eq] at done
  unfold located?
  cases site : siteOf config hostname with
  | fixed answer =>
    simp only [site] at done
    obtain ⟨rfl, rfl, rfl⟩ := Step.pure_pair_eq_some.1 done
    exact ⟨[], .nothing _, .nothing _, rfl⟩
  | listed region =>
    simp only [site, Step.bind_eq_some] at done
    obtain ⟨⟨found, known'⟩, middle, asked, done⟩ := done
    obtain ⟨rfl, rfl, rfl⟩ := Step.pure_pair_eq_some.1 done
    obtain ⟨listings, performed, learns, present⟩ := inventory_performs site asked
    exact ⟨listings, performed, learns, by simp [present]⟩

end Scaledown.Location
