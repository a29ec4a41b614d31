/-
This file tells which partitions are listed while one resolver locates many nodes.
-/

import Scaledown.Proofs.Location
import Scaledown.Simulation.Script

namespace Scaledown.Location

open Compute

/-- A node of a regional partition is looked for in the region of its partition. -/
def question? (config : Config) (hostname : String) : Option (String × String) :=
  match config.partition (partitionOf hostname) with
  | .error _ => none
  | .ok partition =>
    if partition.regionalCapacity then
      partition.effectiveRegion?.map fun region => (region, partitionOf hostname)
    else none

theorem question?_eq_some_iff {config : Config} {hostname : String} {place : String × String} :
    question? config hostname = some place ↔
      siteOf config hostname = .listed place.1 ∧ partitionOf hostname = place.2 := by
  obtain ⟨region, name⟩ := place
  unfold question? siteOf
  cases config.partition (partitionOf hostname) with
  | error error => simp
  | ok partition =>
    dsimp only
    cases partition.regionalCapacity <;> cases partition.effectiveRegion? <;>
      cases partition.zone <;> simp

theorem question?_eq_none_iff {config : Config} {hostname : String} :
    question? config hostname = none ↔ ∃ result, siteOf config hostname = .fixed result := by
  unfold question? siteOf
  cases config.partition (partitionOf hostname) with
  | error error => simp
  | ok partition =>
    dsimp only
    cases partition.regionalCapacity <;> cases partition.effectiveRegion? <;>
      cases partition.zone <;> simp

namespace Listing

def place (listing : Listing) : String × String :=
  (listing.region, listing.partition)

/-- The last instance of its name tells the zone of a node. -/
def locate (listing : Listing) (hostname : String) : Except Suspend.Error Location :=
  match listing.answer with
  | .error reason => .error (.lookup listing.partition reason.message)
  | .ok listed =>
    match (listed.filter fun found => found.name = hostname).getLast? with
    | some found => .ok (.inZone found.zoneName)
    | none => .ok .absent

theorem inInventory_eq_locate (listing : Listing) (hostname : String) :
    inInventory listing.partition hostname (inventoryOf listing.answer) =
      listing.locate hostname := by
  unfold locate
  cases listing.answer with
  | error reason => rfl
  | ok listed =>
    have found : (zonesOf listed).find? hostname =
        ((listed.filter fun found => found.name = hostname).getLast?).map
          Instance.zoneName := by
      rw [zonesOf, Table.find?_putAll, List.filter_map, List.getLast?_map, Option.map_map]
      simp [Function.comp_def]
    simp only [inventoryOf, inInventory, found]
    cases (listed.filter fun found => found.name = hostname).getLast? <;> rfl

end Listing

/-- The inventories hold the answers of these listings in their order. -/
def inventoriesOf (listings : List Listing) : Inventories :=
  listings.map fun listing => (listing.partition, inventoryOf listing.answer)

@[simp] theorem inventoriesOf_nil : inventoriesOf [] = [] := rfl

@[simp] theorem keys_inventoriesOf (listings : List Listing) :
    (inventoriesOf listings).keys = listings.map Listing.partition := by
  simp [inventoriesOf, Table.keys]

@[simp] theorem lookups_inventoriesOf (listings : List Listing) :
    lookups (inventoriesOf listings) = listings.length := by
  simp [inventoriesOf, lookups]

/-- The configuration tells where a node is, or the listing of its partition does. -/
inductive Tells (config : Config) (listings : List Listing) (hostname : String) :
    Except Suspend.Error Location → Prop where
  | fixed {result : Except Suspend.Error Location}
      (site : siteOf config hostname = .fixed result) : Tells config listings hostname result
  | listed {listing : Listing} (inside : listing ∈ listings)
      (asked : question? config hostname = some listing.place) :
      Tells config listings hostname (listing.locate hostname)

/-- Later listings do not change what was told. -/
theorem Tells.mono {config : Config} {former later : List Listing} {hostname : String}
    {result : Except Suspend.Error Location} (tells : Tells config former hostname result)
    (within : former ⊆ later) : Tells config later hostname result := by
  cases tells with
  | fixed site => exact .fixed site
  | listed inside asked => exact .listed (within inside) asked

/-- One listing for each place tells a node one result. -/
theorem Tells.unique {config : Config} {listings : List Listing} {hostname : String}
    {first second : Except Suspend.Error Location}
    (distinct : (listings.map Listing.place).Nodup)
    (one : Tells config listings hostname first) (two : Tells config listings hostname second) :
    first = second := by
  cases one with
  | fixed site =>
    cases two with
    | fixed other =>
      rw [site] at other
      exact Site.fixed.inj other
    | listed _ asked =>
      rw [question?_eq_none_iff.2 ⟨_, site⟩] at asked
      cases asked
  | listed inside asked =>
    cases two with
    | fixed other =>
      rw [question?_eq_none_iff.2 ⟨_, other⟩] at asked
      cases asked
    | listed present again =>
      have same := Option.some.inj (asked.symm.trans again)
      rw [List.inj_on_of_nodup_map distinct inside present same]

/-- Each place was asked for once, in the order in which the nodes of these hosts need it. -/
def Asks (config : Config) (hostnames : List String) (listings : List Listing) : Prop :=
  listings.map Listing.place = (hostnames.filterMap (question? config)).eraseDups

namespace Asks

variable {config : Config} {hostnames : List String} {listings : List Listing}

theorem nodup_places (asks : Asks config hostnames listings) :
    (listings.map Listing.place).Nodup := by
  rw [asks]
  exact nodup_eraseDups _

theorem suits (asks : Asks config hostnames listings) :
    ∀ listing ∈ listings, listing.Suits config := by
  intro listing inside
  have needed : listing.place ∈ (hostnames.filterMap (question? config)).eraseDups := by
    rw [← asks]
    exact List.mem_map_of_mem inside
  obtain ⟨hostname, -, asked⟩ := List.mem_filterMap.1 (List.mem_eraseDups.1 needed)
  obtain ⟨site, same⟩ := question?_eq_some_iff.1 asked
  have suited := suits_of_siteOf site listing.answer
  rwa [same] at suited

/-- The partitions differ too, since each one has its own region. -/
theorem nodup_partitions (asks : Asks config hostnames listings) :
    (listings.map Listing.partition).Nodup := by
  have injective : ∀ first ∈ listings, ∀ second ∈ listings,
      first.partition = second.partition → first = second := by
    intro first inside second present same
    obtain ⟨partition, found, -, placed⟩ := asks.suits first inside
    obtain ⟨other, here, -, held⟩ := asks.suits second present
    rw [same] at found
    obtain rfl := Except.ok.inj (found.symm.trans here)
    have region := Option.some.inj (placed.symm.trans held)
    apply List.inj_on_of_nodup_map asks.nodup_places inside present
    simp [Listing.place, same, region]
  exact (List.Nodup.of_map _ asks.nodup_places).map_on injective

/-- A node with a place in the configuration needs no listing. -/
theorem concat_of_none {hostname : String} (asks : Asks config hostnames listings)
    (none : question? config hostname = none) :
    Asks config (hostnames ++ [hostname]) listings := by
  simpa [Asks, none] using asks

/-- A partition that was listed is not listed again. -/
theorem concat_of_mem {hostname : String} {listing : Listing}
    (asks : Asks config hostnames listings) (inside : listing ∈ listings)
    (asked : question? config hostname = some listing.place) :
    Asks config (hostnames ++ [hostname]) listings := by
  have known : listing.place ∈ (hostnames.filterMap (question? config)).eraseDups := by
    rw [← asks]
    exact List.mem_map_of_mem inside
  have next : (hostnames ++ [hostname]).filterMap (question? config) =
      hostnames.filterMap (question? config) ++ [listing.place] := by
    simp [asked]
  rw [Asks, next, eraseDups_concat, if_pos (List.mem_eraseDups.1 known), List.append_nil]
  exact asks

/-- A partition that was not listed is listed next. -/
theorem concat_of_not_mem {hostname : String} {listing : Listing}
    (asks : Asks config hostnames listings)
    (fresh : listing.partition ∉ listings.map Listing.partition)
    (asked : question? config hostname = some listing.place) :
    Asks config (hostnames ++ [hostname]) (listings ++ [listing]) := by
  have unknown : listing.place ∉ hostnames.filterMap (question? config) := by
    intro inside
    rw [← List.mem_eraseDups, ← asks] at inside
    obtain ⟨other, present, same⟩ := List.mem_map.1 inside
    exact fresh (List.mem_map.2 ⟨other, present, congrArg Prod.snd same⟩)
  have next : (hostnames ++ [hostname]).filterMap (question? config) =
      hostnames.filterMap (question? config) ++ [listing.place] := by
    simp [asked]
  rw [Asks, next, eraseDups_concat, if_neg unknown, List.map_append, asks]
  rfl

end Asks

variable {World : Type} {collaborators : Collaborators World} {session last : Session World}

/-- One resolver locates nodes one after another. -/
def resolveAll (collaborators : Collaborators World) (config : Config) :
    List String → Inventories →
      Step World (List (Except Suspend.Error Location) × Inventories)
  | [], known => return ([], known)
  | hostname :: rest, known => do
    let (result, known) ← resolve collaborators config hostname known
    let (results, known) ← resolveAll collaborators config rest known
    return (result :: results, known)

/-- The listing of a partition is used again, or it is made now. -/
theorem inventory_asks {config : Config} {earlier : List String} {listings : List Listing}
    {hostname region : String} {found : Inventory} {later : Inventories}
    (asks : Asks config earlier listings) (site : siteOf config hostname = .listed region)
    (done : inventory collaborators (partitionOf hostname) region (inventoriesOf listings)
      session = some ((found, later), last)) :
    ∃ (asked : List Listing) (listing : Listing), listing ∈ listings ++ asked ∧
      question? config hostname = some listing.place ∧ inventoryOf listing.answer = found ∧
      Performs collaborators session (asked.map Listing.event) last ∧
      later = inventoriesOf (listings ++ asked) ∧
      Asks config (earlier ++ [hostname]) (listings ++ asked) := by
  have needed : question? config hostname = some (region, partitionOf hostname) :=
    question?_eq_some_iff.2 ⟨site, rfl⟩
  cases present : (inventoriesOf listings).find? (partitionOf hostname) with
  | some held =>
    simp only [inventory, present] at done
    obtain ⟨rfl, rfl, rfl⟩ := Step.pure_pair_eq_some.1 done
    obtain ⟨listing, inside, same⟩ := List.mem_map.1 (Table.mem_of_find?_eq_some present)
    obtain ⟨name, answer⟩ := Prod.mk.inj same
    have asked : question? config hostname = some listing.place := by
      rw [needed, Listing.place, region_of_suits (asks.suits listing inside) name site, name]
    refine ⟨[], listing, by simpa using inside, asked, answer, .nothing _, by simp, ?_⟩
    rw [List.append_nil]
    exact asks.concat_of_mem inside asked
  | none =>
    simp only [inventory, present, Step.bind_eq_some] at done
    obtain ⟨answer, middle, called, done⟩ := done
    obtain ⟨rfl, rfl, rfl⟩ := Step.pure_pair_eq_some.1 done
    have fresh : partitionOf hostname ∉ (inventoriesOf listings).keys := by
      rwa [← Table.find?_eq_none_iff]
    let listing : Listing := ⟨region, partitionOf hostname, answer⟩
    refine ⟨[listing], listing, by simp, needed, rfl,
      Collaborators.listInstances_performs called, ?_, ?_⟩
    · rw [Table.put_eq_append _ fresh]
      simp [inventoriesOf, listing]
    · rw [keys_inventoriesOf] at fresh
      exact asks.concat_of_not_mem fresh needed

/-- A resolver lists the partition of a node when it has not done so before. -/
theorem resolve_asks {config : Config} {earlier : List String} {listings : List Listing}
    {hostname : String} {result : Except Suspend.Error Location} {later : Inventories}
    (asks : Asks config earlier listings)
    (done : resolve collaborators config hostname (inventoriesOf listings) session =
      some ((result, later), last)) :
    ∃ asked : List Listing,
      Performs collaborators session (asked.map Listing.event) last ∧
      later = inventoriesOf (listings ++ asked) ∧
      Asks config (earlier ++ [hostname]) (listings ++ asked) ∧
      Tells config (listings ++ asked) hostname result := by
  rw [resolve_eq] at done
  cases site : siteOf config hostname with
  | fixed answer =>
    simp only [site] at done
    obtain ⟨rfl, rfl, rfl⟩ := Step.pure_pair_eq_some.1 done
    refine ⟨[], .nothing _, by simp, ?_, .fixed site⟩
    rw [List.append_nil]
    exact asks.concat_of_none (question?_eq_none_iff.2 ⟨_, site⟩)
  | listed region =>
    simp only [site, Step.bind_eq_some] at done
    obtain ⟨⟨found, known⟩, middle, asking, done⟩ := done
    obtain ⟨rfl, rfl, rfl⟩ := Step.pure_pair_eq_some.1 done
    obtain ⟨asked, listing, inside, needed, rfl, performed, rfl, next⟩ :=
      inventory_asks asks site asking
    refine ⟨asked, performed, rfl, next, ?_⟩
    rw [(question?_eq_some_iff.1 needed).2, Listing.place, listing.inInventory_eq_locate]
    exact .listed inside needed

/-- A resolver that goes on after earlier nodes lists the partitions that are new. -/
theorem resolveAll_asks {config : Config} {earlier hostnames : List String}
    {listings : List Listing} {results : List (Except Suspend.Error Location)}
    {later : Inventories} (asks : Asks config earlier listings)
    (done : resolveAll collaborators config hostnames (inventoriesOf listings) session =
      some ((results, later), last)) :
    ∃ asked : List Listing,
      Performs collaborators session (asked.map Listing.event) last ∧
      later = inventoriesOf (listings ++ asked) ∧
      Asks config (earlier ++ hostnames) (listings ++ asked) ∧
      List.Forall₂ (Tells config (listings ++ asked)) hostnames results := by
  induction hostnames generalizing earlier listings session results with
  | nil =>
    obtain ⟨rfl, rfl, rfl⟩ := Step.pure_pair_eq_some.1 done
    exact ⟨[], .nothing _, by simp, by simpa using asks, .nil⟩
  | cons hostname hostnames ih =>
    simp only [resolveAll, Step.bind_eq_some] at done
    obtain ⟨⟨result, known⟩, middle, first, ⟨others, known'⟩, middle', rest, done⟩ := done
    obtain ⟨rfl, rfl, rfl⟩ := Step.pure_pair_eq_some.1 done
    obtain ⟨former, performed, rfl, next, told⟩ := resolve_asks asks first
    obtain ⟨latter, performing, rfl, final, tell⟩ := ih next rest
    rw [List.append_assoc] at final tell
    refine ⟨former ++ latter, ?_, by rw [List.append_assoc], by simpa using final, ?_⟩
    · simpa using performed.trans performing
    · apply List.Forall₂.cons _ tell
      apply told.mono
      rw [← List.append_assoc]
      exact List.subset_append_left _ _

/-- The nodes of two lists are located by one resolver that goes on after the first list. -/
theorem resolveAll_append {config : Config} {former latter : List String}
    {known later : Inventories} {results : List (Except Suspend.Error Location)}
    (done : resolveAll collaborators config (former ++ latter) known session =
      some ((results, later), last)) :
    ∃ first between middle second,
      resolveAll collaborators config former known session = some ((first, between), middle) ∧
      resolveAll collaborators config latter between middle = some ((second, later), last) ∧
      results = first ++ second := by
  induction former generalizing known session results with
  | nil => exact ⟨[], known, session, results, rfl, done, rfl⟩
  | cons hostname former ih =>
    simp only [List.cons_append, resolveAll, Step.bind_eq_some] at done
    obtain ⟨⟨result, known'⟩, start, head, ⟨others, later'⟩, final, rest, done⟩ := done
    obtain ⟨rfl, rfl, rfl⟩ := Step.pure_pair_eq_some.1 done
    obtain ⟨first, between, middle, second, one, two, rfl⟩ := ih rest
    refine ⟨result :: first, between, middle, second, ?_, two, rfl⟩
    exact Step.bind_eq_some.2 ⟨_, _, head, Step.bind_eq_some.2 ⟨_, _, one, rfl⟩⟩

/-- From here on the provider answers every listing, whether it fails or not. -/
def AnswersLists (collaborators : Collaborators World) (session : Session World) : Prop :=
  ∀ ⦃events later⦄, Performs collaborators session events later →
    ∀ region namePart, ∃ answer after,
      collaborators.provider.listInstances later.time region namePart later.world =
        some (answer, after)

theorem resolve_answered (answered : AnswersLists collaborators session) (config : Config)
    (hostname : String) (known : Inventories) :
    ∃ result later last, resolve collaborators config hostname known session =
      some ((result, later), last) := by
  rw [resolve_eq]
  cases siteOf config hostname with
  | fixed result => exact ⟨_, _, _, rfl⟩
  | listed region =>
    have found : ∃ found later last, inventory collaborators (partitionOf hostname) region known
        session = some ((found, later), last) := by
      unfold inventory
      cases known.find? (partitionOf hostname) with
      | some held => exact ⟨_, _, _, rfl⟩
      | none =>
        obtain ⟨answer, after, replied⟩ := answered (.nothing session) region
          (partitionOf hostname)
        exact ⟨_, _, _, Step.bind_eq_some.2 ⟨_, _, Step.call_eq_some replied, rfl⟩⟩
    obtain ⟨found, later, last, done⟩ := found
    exact ⟨_, _, _, Step.bind_eq_some.2 ⟨_, _, done, rfl⟩⟩

/-- A resolver locates all nodes when its provider answers. -/
theorem resolveAll_answered (answered : AnswersLists collaborators session) (config : Config)
    (hostnames : List String) (known : Inventories) :
    ∃ results later last, resolveAll collaborators config hostnames known session =
      some ((results, later), last) := by
  induction hostnames generalizing known session with
  | nil => exact ⟨_, _, _, rfl⟩
  | cons hostname hostnames ih =>
    obtain ⟨result, between, middle, first⟩ := resolve_answered answered config hostname known
    obtain ⟨listings, performed, -⟩ := resolve_performs first
    obtain ⟨results, later, last, rest⟩ :=
      ih (fun events final next => answered (performed.trans next)) between
    refine ⟨result :: results, later, last, ?_⟩
    exact Step.bind_eq_some.2 ⟨_, _, first, Step.bind_eq_some.2 ⟨_, _, rest, rfl⟩⟩

/-- These listings are the only ones that the nodes of these hosts need, and they tell where the
nodes are. -/
structure ListsOnce (config : Config) (hostnames : List String) (listings : List Listing)
    (results : List (Except Suspend.Error Location)) (known : Inventories) : Prop where
  places : listings.map Listing.place = (hostnames.filterMap (question? config)).eraseDups
  partitions : (listings.map Listing.partition).Nodup
  counted : lookups known = listings.length
  told : List.Forall₂ (Tells config listings) hostnames results
  again : ∀ hostname first second, (hostname, first) ∈ hostnames.zip results →
    (hostname, second) ∈ hostnames.zip results → first = second

/-- Whatever the provider answers, and after any number of the nodes, a resolver has listed each
partition that they need once, at the first of its nodes, and goes on with what it was told. -/
theorem resolveAll_lists_each_partition_once (collaborators : Collaborators World)
    (config : Config) (hostnames : List String) (session : Session World) :
    (∀ results known last, resolveAll collaborators config hostnames [] session =
        some ((results, known), last) →
      ∀ former latter, hostnames = former ++ latter →
        ∃ first second between middle listings, results = first ++ second ∧
          resolveAll collaborators config former [] session = some ((first, between), middle) ∧
          middle.events = session.events ++ listings.map Listing.event ∧
          ListsOnce config former listings first between) ∧
    (AnswersLists collaborators session → ∃ results known last,
      resolveAll collaborators config hostnames [] session =
        some ((results, known), last)) := by
  refine ⟨?_, fun answered => resolveAll_answered answered config hostnames []⟩
  rintro results known last done former latter rfl
  obtain ⟨first, between, middle, second, one, -, rfl⟩ := resolveAll_append done
  have fresh : Asks config [] [] := rfl
  obtain ⟨listings, performed, rfl, asks, told⟩ := resolveAll_asks fresh one
  rw [List.nil_append, List.nil_append] at asks
  refine ⟨first, second, _, middle, listings, rfl, one, performed.events_eq, asks,
    asks.nodup_partitions, lookups_inventoriesOf _, told, ?_⟩
  intro hostname result other inside present
  have located := List.forall₂_iff_zip.1 told
  exact Tells.unique asks.nodup_places (located.2 inside) (located.2 present)

/-- Two of the partitions are looked for in the same region. -/
def sharedRegion : Config where
  project := "project"
  clusterName := "cluster"
  schedulerDirectory := none
  logDirectory := none
  computeEndpoint := none
  credentialsPath := none
  suspend := SuspendSettings.standard
  partitions :=
    [("fixed", { Partition.empty with zone := some "us-a" }),
     ("wide", { Partition.empty with region := some "us", regionalCapacity := true }),
     ("broad", { Partition.empty with zone := some "us-b", regionalCapacity := true })]

/-- The first listing names a node twice, and the second one fails. -/
def sharedRegionWorld : Simulation.World where
  provider := ⟨[], [], [], [("us",
    [.ok [⟨"wide-0", "zones/us-b", none⟩, ⟨"wide-0", "zones/us-c", none⟩],
      .error (.transport "reset")])], []⟩
  scheduler := ⟨none, none, []⟩
  accelerator := []

def sharedRegionHosts : List String :=
  ["wide-0", "fixed-0", "broad-0", "wide-1", "other-0", "broad-0", "wide-0"]

theorem resolveAll_lists_each_partition_once_sharedRegion :
    AnswersLists Simulation.collaborators (.start sharedRegionWorld) ∧
      ∃ results known last listings,
        resolveAll Simulation.collaborators sharedRegion sharedRegionHosts []
          (.start sharedRegionWorld) = some ((results, known), last) ∧
        results = [.ok (.inZone "us-c"), .ok (.inZone "us-a"),
          .error (.lookup "broad" "http transport error: reset"), .ok .absent,
          .error (.config (.unknownPartition "other")),
          .error (.lookup "broad" "http transport error: reset"), .ok (.inZone "us-c")] ∧
        last.events = listings.map Listing.event ∧
        ListsOnce sharedRegion sharedRegionHosts listings results known := by
  have answered : AnswersLists Simulation.collaborators (.start sharedRegionWorld) :=
    fun _ _ _ _ _ => ⟨_, _, rfl⟩
  have read : (resolveAll Simulation.collaborators sharedRegion sharedRegionHosts []
      (.start sharedRegionWorld)).map (fun final => final.1.1) =
        some [.ok (.inZone "us-c"), .ok (.inZone "us-a"),
          .error (.lookup "broad" "http transport error: reset"), .ok .absent,
          .error (.config (.unknownPartition "other")),
          .error (.lookup "broad" "http transport error: reset"), .ok (.inZone "us-c")] := by
    decide +kernel
  obtain ⟨throughout, ends⟩ := resolveAll_lists_each_partition_once Simulation.collaborators
    sharedRegion sharedRegionHosts (.start sharedRegionWorld)
  obtain ⟨results, known, last, done⟩ := ends answered
  obtain ⟨first, second, between, middle, listings, -, again, events, once⟩ :=
    throughout results known last done sharedRegionHosts [] (List.append_nil _).symm
  rw [again] at read
  exact ⟨answered, first, between, middle, listings, again, Option.some.inj read, events, once⟩

end Scaledown.Location
