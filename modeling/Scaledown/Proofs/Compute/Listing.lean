/-
This file tells what is found by following the pages of an inventory to the last one.
-/

import Scaledown.Compute.Service
import Scaledown.Proofs.Compute.Page
import Scaledown.Proofs.Text.Split
import Scaledown.Proofs.Url.Pairs
import Scaledown.Simulation.Network

namespace Scaledown

/-- What follows an answer goes on with it. -/
theorem Reply.bind_eq {World α β : Type} {first : Reply World α} {next : α → Reply World β}
    {world after : World} {value : α} (answered : first world = some (value, after)) :
    (first >>= next) world = next value after := by
  change (first world).bind _ = _
  rw [answered]
  rfl

/-- A request that can be built is made of the parts that were asked for. -/
theorem Http.Request.eq_of_build {method : Http.Method} {address : String}
    {query headers : List (String × String)} {body : Option String} {request : Http.Request}
    (built : Http.Request.build method address query headers body = .ok request) :
    request.method = method ∧ request.headers = headers ∧ request.body = body ∧
      ∃ target, Url.ofText? address = some target ∧
        (query ≠ [] → request.url = target.withoutCredentials.withPairs query) := by
  rw [build] at built
  cases read : Url.ofText? address with
  | none => simp [read, throw, throwThe, MonadExceptOf.throw] at built
  | some target =>
    simp only [read, bind, Except.bind, pure, Except.pure, throw, throwThe,
      MonadExceptOf.throw] at built
    split_ifs at built <;> cases built <;> simp_all

namespace Compute

open Simulation

/-- The zones of a region have its name and a dash in front. -/
def InRegion (region scope : String) : Prop :=
  ("zones/" ++ region ++ "-").toList <+: scope.toList

instance (region scope : String) : Decidable (InRegion region scope) :=
  inferInstanceAs (Decidable (_ <+: _))

theorem Page.inRegion_eq (region scope : String) :
    Page.inRegion region scope = decide (InRegion region scope) := by
  by_cases inside : InRegion region scope
  · rw [decide_eq_true inside]
    obtain ⟨rest, whole⟩ := inside
    rw [Page.inRegion, ← whole, Text.dropStart?_append, Option.isSome_some]
  · rw [decide_eq_false inside, Page.inRegion, Text.dropStart?_eq_none inside, Option.isSome_none]

/-- A zone of a region whose name goes on with another sign is not in the region. -/
theorem not_inRegion_of_longer {region scope : String} {sign : Char} {rest : List Char}
    (longer : scope.toList = ("zones/" ++ region).toList ++ sign :: rest) (other : sign ≠ '-') :
    ¬ InRegion region scope := by
  intro inside
  rw [InRegion, longer, String.toList_append, List.prefix_append_right_inj] at inside
  obtain ⟨same, -⟩ := List.cons_prefix_cons.1 inside
  exact other same.symm

/-- These instances are listed in the zones of a region. -/
def listedIn (region : String) (scopes : List (String × List Instance)) : List Instance :=
  (scopes.filter fun scope => InRegion region scope.1).flatMap Prod.snd

theorem Page.instancesIn_eq (region : String) (page : Page) :
    page.instancesIn region = listedIn region page.scopes := by
  simp only [instancesIn, listedIn, inRegion_eq]

/-- The order of the scopes does not change what is listed. -/
theorem listedIn_perm {region : String} {first second : List (String × List Instance)}
    (same : first.Perm second) : (listedIn region first).Perm (listedIn region second) :=
  (same.filter _).flatMap_right _

/-- These instances are listed in the zones of a region on the pages, in whatever order the scopes
of each page are taken. -/
def Gathers (region : String) (pages : List Page) (found : List Instance) : Prop :=
  ∀ orders, List.Forall₂ (fun order page => order.Perm page.scopes) orders pages →
    found.Perm (orders.flatMap (listedIn region))

theorem gathers_flatMap_instancesIn (region : String) (pages : List Page) :
    Gathers region pages (pages.flatMap (Page.instancesIn region)) := by
  intro orders each
  induction each with
  | nil => exact .nil
  | cons same _ rest =>
    rw [List.flatMap_cons, List.flatMap_cons, Page.instancesIn_eq]
    exact (listedIn_perm same.symm).append rest

theorem Page.next?_eq_next {page : Page} {pointer : String} (next : page.next = some pointer)
    (present : pointer ≠ "") : page.next? = page.next := by
  simp [Page.next?, next, present]

/-- A chain ends with a page that points to no other one, with a rejection or with an answer that
holds no page. -/
inductive Ends (response : Http.Response) : Except Compute.Error Page → Prop where
  | page {last : Page} (answered : last.AnsweredBy response)
      (final : last.next = none ∨ last.next = some "") : Ends response (.ok last)
  | rejected (refused : ¬ (200 ≤ response.status ∧ response.status < 300)) :
      Ends response (.error (.rejected response.status
        (rejectionMessage ((response.body.map Text.ofBytesLossy).getD ""))))
  | undecodable (succeeded : 200 ≤ response.status ∧ response.status < 300)
      (unread : ((response.body.bind Text.ofBytes?).bind Json.ofText?).bind Page.ofJson? = none) :
      Ends response (.error (.undecodable "error decoding response body"))

theorem Ends.readAnswer_eq {response : Http.Response} {outcome : Except Compute.Error Page}
    (ends : Ends response outcome) : readAnswer Page.ofJson? response = outcome := by
  cases ends with
  | page answered _ => exact Page.readAnswer_of_answeredBy answered
  | rejected refused =>
    have failed : response.succeeded = false := by
      simpa [Http.Response.succeeded] using refused
    simp [readAnswer, failed, rejection]
  | undecodable succeeded unread =>
    have held : response.succeeded = true := by
      simpa [Http.Response.succeeded] using succeeded
    rw [readAnswer, held, unread]
    rfl

theorem Ends.next?_eq_none {response : Http.Response} {last : Page}
    (ends : Ends response (.ok last)) : last.next? = none := by
  cases ends with
  | page _ final =>
    rcases final with missing | empty
    · simp [Page.next?, missing]
    · simp [Page.next?, empty]

namespace Client

variable {client : Client} {token region namePart : String}

/-- The request for the page behind a pointer can be built. -/
def CanAsk (client : Client) (token namePart : String) (pointer : Option String) : Prop :=
  ∃ request, client.inventoryRequest token namePart pointer = .ok request

/-- A request gets the page behind a pointer with the given token. Its address is the one of the
inventory, and the pairs of this address are followed by those that narrow the listing to names and
fields and, behind a pointer only, by the pointer itself. -/
structure AsksForPage (client : Client) (token namePart : String) (pointer : Option String)
    (request : Http.Request) : Prop where
  method : request.method = .get
  headers : request.headers = [("authorization", "Bearer " ++ token)]
  body : request.body = none
  url : ∃ target,
    Url.ofText? (client.origin ++ (client.root ++ "/projects/" ++ client.project) ++
      "/aggregated/instances") = some target ∧
    request.url = { target.withoutCredentials with query := request.url.query } ∧
    request.url.pairs = target.pairs ++
      (("filter", "name eq '" ++ namePart ++ "-.*'") ::
        ("fields", "items/*/instances(name,zone,status),nextPageToken") ::
          (pointer.map fun text => ("pageToken", text)).toList).map Url.pairBytes

theorem asksForPage_of_inventoryRequest {pointer : Option String} {request : Http.Request}
    (built : client.inventoryRequest token namePart pointer = .ok request) :
    client.AsksForPage token namePart pointer request := by
  obtain ⟨method, headers, body, target, read, url⟩ := Http.Request.eq_of_build built
  refine ⟨method, headers, body, target, read, ?_, ?_⟩
  · rw [url (List.cons_ne_nil _ _)]
    rfl
  · rw [url (List.cons_ne_nil _ _), Url.pairs_withPairs, Url.pairs_withoutCredentials]
    rfl

/-- What is done with an available token is done in the world after it was got. -/
theorem withToken_eq {World α : Type} {network : Http.Network World} {time : Nat}
    {online ready : Online World} {use : String → Reply World (Except Compute.Error α)}
    {result : Except Compute.Error α} {after : World}
    (authorized : Token.access network time client.source online = some (.ok token, ready))
    (used : use token ready.world = some (result, after)) :
    client.withToken network time use online = some (result, { ready with world := after }) := by
  rw [withToken, Reply.bind_eq authorized]
  change (use token ready.world).bind _ = _
  rw [used]
  rfl

/-- One page is asked for and read, and the rest of the answers wait. -/
theorem listPages_step {pointer : Option String} {request : Http.Request}
    {response : Http.Response} {patience : Nat} {found : List Instance}
    {answers : List (Option Http.Response)} {sent : List Http.Request}
    (built : client.inventoryRequest token namePart pointer = .ok request) :
    client.listPages network token region namePart (patience + 1) pointer found
        ⟨true, some response :: answers, sent⟩ =
      match readAnswer Page.ofJson? response with
      | .error error => some (.error error, ⟨true, answers, sent ++ [request]⟩)
      | .ok page =>
        match page.next? with
        | some next => client.listPages network token region namePart patience (some next)
            (found ++ page.instancesIn region) ⟨true, answers, sent ++ [request]⟩
        | none =>
          some (.ok (found ++ page.instancesIn region), ⟨true, answers, sent ++ [request]⟩) := by
  have exchanged : exchange network (.ok request) (readAnswer Page.ofJson?)
      ⟨true, some response :: answers, sent⟩ =
        some (readAnswer Page.ofJson? response, ⟨true, answers, sent ++ [request]⟩) := rfl
  rw [listPages, built, Reply.bind_eq exchanged]
  cases readAnswer Page.ofJson? response with
  | error error => rfl
  | ok page =>
    dsimp only
    cases page.next? <;> rfl

/-- A page whose request cannot be built is not asked for. -/
theorem listPages_of_unbuildable {pointer : Option String} {fault : Http.Fault} {patience : Nat}
    {found : List Instance} (world : ScriptedNetwork)
    (unbuilt : client.inventoryRequest token namePart pointer = .error fault) :
    client.listPages network token region namePart (patience + 1) pointer found world =
      some (.error (.transport fault.message), world) := by
  have exchanged : exchange network (.error fault) (readAnswer Page.ofJson?) world =
      some (.error (.transport fault.message), world) := rfl
  rw [listPages, unbuilt, Reply.bind_eq exchanged]
  rfl

variable (region) in
/-- As long as the requests can be built, the pages that point to other ones are gone through. -/
theorem listPages_reaches {former latter : List (Option String)} {pointer start : Option String}
    {front : List Page} {responses : List Http.Response} {patience : Nat}
    (held : List.Forall₂ Page.AnsweredBy front responses)
    (pointing : ∀ page ∈ front, ∃ text, page.next = some text ∧ text ≠ "")
    (pointers : start :: front.map Page.next = former ++ pointer :: latter)
    (buildable : ∀ earlier ∈ former, client.CanAsk token namePart earlier)
    (patient : front.length < patience) (found : List Instance)
    (answers : List (Option Http.Response)) (sent : List Http.Request) :
    ∃ requests left, List.Forall₂ (client.AsksForPage token namePart) former requests ∧
      client.listPages network token region namePart patience start found
          ⟨true, responses.map some ++ answers, sent⟩ =
        client.listPages network token region namePart (left + 1) pointer
          (found ++ (front.take former.length).flatMap (Page.instancesIn region))
          ⟨true, (responses.drop former.length).map some ++ answers, sent ++ requests⟩ := by
  obtain ⟨left, rfl⟩ := Nat.exists_eq_add_one_of_ne_zero (Nat.ne_zero_of_lt patient)
  induction former generalizing start front responses found sent left with
  | nil =>
    obtain ⟨rfl, -⟩ := List.cons.inj pointers
    exact ⟨[], left, .nil, by simp⟩
  | cons first former ih =>
    obtain ⟨rfl, following⟩ := List.cons.inj pointers
    obtain ⟨⟨request, built⟩, buildable⟩ := List.forall_mem_cons.1 buildable
    cases held with
    | nil => simp at following
    | @cons page response front responses answered held =>
      obtain ⟨⟨text, next, present⟩, pointing⟩ := List.forall_mem_cons.1 pointing
      rw [List.length_cons, Nat.add_lt_add_iff_right] at patient
      obtain ⟨left, rfl⟩ := Nat.exists_eq_add_one_of_ne_zero (Nat.ne_zero_of_lt patient)
      obtain ⟨requests, rest, asked, reached⟩ := ih held pointing following buildable
        (found ++ page.instancesIn region) (sent ++ [request]) left patient
      refine ⟨request :: requests, rest, .cons (asksForPage_of_inventoryRequest built) asked, ?_⟩
      rw [List.map_cons, List.cons_append, listPages_step built,
        Page.readAnswer_of_answeredBy answered]
      simp only [Page.next?_eq_next next present, next] at reached ⊢
      rw [reached]
      simp [List.append_assoc]

variable (region) in
/-- The last answer of a chain decides what its listing ends with. -/
theorem listPages_ends {front : List Page} {responses : List Http.Response}
    {final : Http.Response} {outcome : Except Compute.Error Page} {start : Option String}
    {patience : Nat} (held : List.Forall₂ Page.AnsweredBy front responses)
    (pointing : ∀ page ∈ front, ∃ text, page.next = some text ∧ text ≠ "")
    (ends : Ends final outcome)
    (buildable : ∀ pointer ∈ start :: front.map Page.next, client.CanAsk token namePart pointer)
    (patient : front.length < patience) (later : List (Option Http.Response))
    (sent : List Http.Request) :
    ∃ requests,
      List.Forall₂ (client.AsksForPage token namePart) (start :: front.map Page.next) requests ∧
        client.listPages network token region namePart patience start []
            ⟨true, responses.map some ++ some final :: later, sent⟩ =
          some (outcome.map fun last => (front ++ [last]).flatMap (Page.instancesIn region),
            ⟨true, later, sent ++ requests⟩) := by
  obtain ⟨former, pointer, pointers⟩ :=
    (List.eq_nil_or_concat (start :: front.map Page.next)).resolve_left (List.cons_ne_nil _ _)
  rw [List.concat_eq_append] at pointers
  have covered : former.length = front.length := by
    simpa using (congrArg List.length pointers).symm
  rw [pointers, List.forall_mem_append, List.forall_mem_singleton] at buildable
  obtain ⟨before, request, built⟩ := buildable
  obtain ⟨requests, left, asked, reached⟩ := listPages_reaches region held pointing pointers
    before patient [] (some final :: later) sent
  refine ⟨requests ++ [request], ?_, ?_⟩
  · rw [pointers]
    exact List.rel_append asked (.cons (asksForPage_of_inventoryRequest built) .nil)
  · rw [reached, covered, List.take_length, held.length_eq, List.drop_length, List.map_nil,
      List.nil_append, List.nil_append, listPages_step built, ends.readAnswer_eq]
    cases outcome with
    | error error => simp [Except.map]
    | ok last => simp [ends.next?_eq_none, Except.map]

end Client

/-- This client has a token of its own. -/
def remoteClient : Client :=
  .ofEndpoint "http://h" "p" (.fixed "token")

def firstPage : Page :=
  ⟨[("zones/u-b", [⟨"n-0", "b", none⟩])], some "more"⟩

def firstText : String :=
  "\x7b\"items\":\x7b\"zones/u-b\":" ++
    "\x7b\"instances\":[\x7b\"name\":\"n-0\",\"zone\":\"b\"\x7d]\x7d\x7d," ++
    "\"nextPageToken\":\"more\"\x7d"

set_option maxRecDepth 100000 in
theorem ofText?_firstText : Json.ofText? firstText = some firstPage.toJson := rfl

/-- The second scope is in another region with a longer name. -/
def lastPage : Page :=
  ⟨[("zones/u-c", [⟨"n-1", "c", none⟩]), ("zones/u1-c", [⟨"n-2", "c", none⟩])], none⟩

def lastText : String :=
  "\x7b\"items\":\x7b\"zones/u-c\":" ++
    "\x7b\"instances\":[\x7b\"name\":\"n-1\",\"zone\":\"c\"\x7d]\x7d,\"zones/u1-c\":" ++
    "\x7b\"instances\":[\x7b\"name\":\"n-2\",\"zone\":\"c\"\x7d]\x7d\x7d\x7d"

set_option maxRecDepth 100000 in
theorem ofText?_lastText : Json.ofText? lastText = some lastPage.toJson := rfl

/-- The listing of this client is asked for at this address. -/
def inventoryText : String :=
  "http://h/projects/p/aggregated/instances?filter=name+eq+%27n-.*%27&" ++
    "fields=items%2F*%2Finstances%28name%2Czone%2Cstatus%29%2CnextPageToken"

/-- A successful answer holds a text. -/
def holding (text : String) : Http.Response :=
  ⟨200, none, some (Text.toBytes text)⟩

/-- The requests for both pages can be built, and a pointer stands at the end of the address. -/
theorem exists_remoteRequest : ∀ page ∈ [(none, ""), (some "more", "&pageToken=more")],
    ∃ request, remoteClient.inventoryRequest "token" "n" page.1 = .ok request ∧
      request.url.text = inventoryText ++ page.2 := by
  have written : ∀ page ∈ [(none, ""), (some "more", "&pageToken=more")],
      (remoteClient.inventoryRequest "token" "n" page.1).toOption.map (fun request =>
        request.url.text) = some (inventoryText ++ page.2) := by
    decide +kernel
  intro page inside
  obtain ⟨request, built, text⟩ := Option.map_eq_some_iff.1 (written page inside)
  cases made : remoteClient.inventoryRequest "token" "n" page.1 with
  | error fault => simp [made, Except.toOption] at built
  | ok other =>
    obtain rfl : other = request := by simpa [made, Except.toOption] using built
    exact ⟨other, rfl, text⟩

end Compute

end Scaledown
