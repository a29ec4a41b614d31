/-
This file tells when a client asks the metadata server for a token.
-/

import Mathlib.Tactic
import Scaledown.Compute.Token
import Scaledown.Simulation.Network

namespace Scaledown

/-- What follows an answer goes on with it, and nothing else leads to a result. -/
theorem Reply.bind_eq_some {World α β : Type} {first : Reply World α} {next : α → Reply World β}
    {world : World} {result : β × World} :
    (first >>= next) world = some result ↔
      ∃ value after, first world = some (value, after) ∧ next value after = some result := by
  change (first world).bind (fun pair => next pair.1 pair.2) = some result ↔ _
  simp [Option.bind_eq_some_iff]

namespace Http

/-- A record keeps every request that is sent with what came of it. -/
structure Recorded (World : Type) where
  world : World
  exchanges : List (Request × Exchange)

/-- This network answers as the given one does, and what is sent to it is recorded. -/
def Network.recorded {World : Type} (network : Network World) : Network (Recorded World) where
  exchange request := fun recorded => do
    let (exchange, world) ← network.exchange request recorded.world
    return (exchange, ⟨world, recorded.exchanges ++ [(request, exchange)]⟩)

end Http

namespace Compute

/-- A client calls for a token at some time. The call is seen by what it sends and by its answer. -/
structure TokenCall where
  time : Nat
  exchanges : List (Http.Request × Http.Exchange)
  answer : Except Compute.Error String

namespace TokenCall

/-- The server hands out a token when the one exchange of the call is answered with it. -/
def grant? (call : TokenCall) : Option TokenGrant :=
  match call.exchanges with
  | [(_, .answered response)] => (readAnswer TokenGrant.ofJson? response).toOption
  | _ => none

/-- The latest token that was handed out is found with the time at which that was. -/
def latest? (calls : List TokenCall) : Option (Nat × TokenGrant) :=
  (calls.filterMap fun call => call.grant?.map fun grant => (call.time, grant)).getLast?

/-- The server is asked and hands out no token. -/
def Fails (call : TokenCall) : Prop :=
  call.exchanges ≠ [] ∧ call.grant? = none

variable {World : Type}

/-- With this token in its cache a client calls for one, and then it has the other token. Nothing
is known about the world at the time of the call. -/
def Made (network : Http.Network World) (token : Option CachedToken) (call : TokenCall)
    (left : Option CachedToken) : Prop :=
  ∃ world after, Token.access network.recorded call.time .metadata ⟨token, ⟨world, []⟩⟩ =
    some (call.answer, ⟨left, ⟨after, call.exchanges⟩⟩)

end TokenCall

/-- A client calls for tokens one after another, and the world goes on in between. -/
inductive TokenCalls {World : Type} (network : Http.Network World) :
    Option CachedToken → List TokenCall → Option CachedToken → Prop where
  | nothing (token : Option CachedToken) : TokenCalls network token [] token
  | call {token middle last : Option CachedToken} {call : TokenCall} {calls : List TokenCall}
      (made : call.Made network token middle) (rest : TokenCalls network middle calls last) :
      TokenCalls network token (call :: calls) last

/-- This request asks the metadata server for a token. -/
structure AsksForToken (request : Http.Request) : Prop where
  method : request.method = .get
  address : request.url.text =
    "http://metadata.google.internal/computeMetadata/v1/instance/service-accounts/default/token"
  headers : request.headers = [("metadata-flavor", "Google")]
  body : request.body = none

theorem Token.exists_metadataRequest :
    ∃ request, metadataRequest = .ok request ∧ AsksForToken request := by
  have built : metadataRequest.toOption.map (fun request =>
      (request.method, request.url.text, request.headers, request.body)) =
        some (.get, metadataAddress, [("metadata-flavor", "Google")], none) := by
    decide +kernel
  cases made : metadataRequest with
  | error fault => simp [made, Except.toOption] at built
  | ok request =>
    simp only [made, Except.toOption, Option.map_some, Option.some.injEq, Prod.mk.injEq] at built
    obtain ⟨method, address, headers, body⟩ := built
    exact ⟨request, rfl, method, address, headers, body⟩

/-- No cached token is fresh at this time. -/
def Stale (token : Option CachedToken) (time : Nat) : Prop :=
  ∀ cached, token = some cached → cached.expiresAt ≤ time

/-- A call uses the cached token again, or it asks for a new token and gets one or none. -/
inductive TokenCall.Ends (token : Option CachedToken) (call : TokenCall) :
    Option CachedToken → Prop where
  | kept {cached : CachedToken} (held : token = some cached) (fresh : call.time < cached.expiresAt)
      (unasked : call.exchanges = []) (answered : call.answer = .ok cached.value) :
      Ends token call token
  | renewed {request : Http.Request} {exchange : Http.Exchange} {grant : TokenGrant}
      (stale : Stale token call.time) (asked : call.exchanges = [(request, exchange)])
      (target : AsksForToken request) (granted : call.grant? = some grant)
      (answered : call.answer = .ok grant.value) :
      Ends token call (some (.ofGrant 60 call.time grant))
  | refused {request : Http.Request} {exchange : Http.Exchange} {detail : String}
      (stale : Stale token call.time) (asked : call.exchanges = [(request, exchange)])
      (target : AsksForToken request) (ungranted : call.grant? = none)
      (answered : call.answer = .error (.unauthorized detail)) :
      Ends token call token

/-- What came of an exchange is a token or an error about the authorization. -/
inductive Fetched : Http.Exchange → Except Compute.Error TokenGrant → Prop where
  | granted {response : Http.Response} {grant : TokenGrant}
      (read : readAnswer TokenGrant.ofJson? response = .ok grant) :
      Fetched (.answered response) (.ok grant)
  | refused {exchange : Http.Exchange} (detail : String)
      (unread : ∀ response, exchange = .answered response →
        ∃ error, readAnswer TokenGrant.ofJson? response = .error error) :
      Fetched exchange (.error (.unauthorized detail))

variable {World : Type} {network : Http.Network World}

theorem Token.fetchFromMetadata_sends {recorded last : Http.Recorded World}
    {fetched : Except Compute.Error TokenGrant}
    (done : fetchFromMetadata network.recorded recorded = some (fetched, last)) :
    ∃ request exchange, AsksForToken request ∧ Fetched exchange fetched ∧
      last.exchanges = recorded.exchanges ++ [(request, exchange)] := by
  obtain ⟨request, built, target⟩ := exists_metadataRequest
  rw [fetchFromMetadata, built] at done
  simp only [Http.Network.sendBuilt, Http.Network.send, bind_assoc] at done
  obtain ⟨given, middle, exchanged, done⟩ := Reply.bind_eq_some.1 done
  obtain ⟨⟨exchange, world⟩, replied, same⟩ := Option.bind_eq_some_iff.1 exchanged
  obtain ⟨rfl, rfl⟩ := Prod.mk.inj (Option.some.inj same)
  refine ⟨request, exchange, target, ?_⟩
  cases exchange with
  | answered response =>
    cases read : readAnswer TokenGrant.ofJson? response with
    | ok grant =>
      simp only [pure_bind, read] at done
      obtain ⟨rfl, rfl⟩ := Prod.mk.inj (Option.some.inj done)
      exact ⟨.granted read, rfl⟩
    | error error =>
      simp only [pure_bind, read] at done
      obtain ⟨rfl, rfl⟩ := Prod.mk.inj (Option.some.inj done)
      refine ⟨.refused _ fun other same => ?_, rfl⟩
      obtain rfl := Http.Exchange.answered.inj same
      exact ⟨error, read⟩
  | unreachable | closed =>
    obtain ⟨rfl, rfl⟩ := Prod.mk.inj (Option.some.inj done)
    exact ⟨.refused _ (by simp), rfl⟩

theorem Token.cached_eq (margin time : Nat)
    (fetch : Reply World (Except Compute.Error TokenGrant)) (online : Online World) :
    cached margin time fetch online =
      match online.token with
      | some token =>
        if token.isFresh time then some (.ok token.value, online)
        else cached.renew margin time fetch online
      | none => cached.renew margin time fetch online := by
  have got : cached margin time fetch online =
      (match online.token with
        | some token =>
          if token.isFresh time then return .ok token.value else cached.renew margin time fetch
        | none => cached.renew margin time fetch : Reply _ _) online := rfl
  rw [got]
  cases online.token with
  | none => rfl
  | some token =>
    dsimp only
    split <;> rfl

/-- A token that is not fresh is renewed by a fetch, and the world beside it goes on. -/
theorem Token.renew_eq_some {margin time : Nat}
    {fetch : Reply World (Except Compute.Error TokenGrant)} {online last : Online World}
    {answer : Except Compute.Error String}
    (done : cached.renew margin time fetch online = some (answer, last)) :
    ∃ fetched, fetch online.world = some (fetched, last.world) ∧
      answer = fetched.map TokenGrant.value ∧
      last.token = match fetched with
        | .ok grant => some (.ofGrant margin time grant)
        | .error _ => online.token := by
  obtain ⟨fetched, middle, lifted, done⟩ := Reply.bind_eq_some.1 done
  obtain ⟨⟨given, world⟩, replied, same⟩ := Option.bind_eq_some_iff.1 lifted
  obtain ⟨rfl, rfl⟩ := Prod.mk.inj (Option.some.inj same)
  cases given with
  | error error =>
    obtain ⟨rfl, rfl⟩ := Prod.mk.inj (Option.some.inj done)
    exact ⟨.error error, replied, rfl, rfl⟩
  | ok grant =>
    obtain ⟨rfl, rfl⟩ := Prod.mk.inj (Option.some.inj done)
    exact ⟨.ok grant, replied, rfl, rfl⟩

namespace TokenCall

variable {token left : Option CachedToken} {call : TokenCall}

theorem Ends.of_renew {world : World} {after : Http.Recorded World}
    (stale : Stale token call.time)
    (renewed : Token.cached.renew Token.metadataMargin call.time
      (Token.fetchFromMetadata network.recorded) ⟨token, ⟨world, []⟩⟩ =
        some (call.answer, ⟨left, after⟩)) (recorded : after.exchanges = call.exchanges) :
    call.Ends token left := by
  obtain ⟨fetched, sent, answered, stored⟩ := Token.renew_eq_some renewed
  obtain ⟨request, exchange, target, came, exchanges⟩ := Token.fetchFromMetadata_sends sent
  have asked : call.exchanges = [(request, exchange)] := recorded.symm.trans exchanges
  cases came with
  | @granted response grant read =>
    obtain rfl : left = some (.ofGrant 60 call.time grant) := stored
    refine .renewed stale asked target ?_ answered
    rw [grant?, asked]
    simp [read, Except.toOption]
  | refused detail unread =>
    obtain rfl : left = token := stored
    refine .refused stale asked target ?_ answered
    rw [grant?, asked]
    cases exchange with
    | answered response =>
      obtain ⟨error, read⟩ := unread response rfl
      simp [read, Except.toOption]
    | unreachable | closed => rfl

/-- Every call ends in one of these ways. -/
theorem Made.ends (made : call.Made network token left) : call.Ends token left := by
  obtain ⟨world, after, accessed⟩ := made
  rw [Token.access, Token.cached_eq] at accessed
  cases held : token with
  | none =>
    subst held
    refine .of_renew (fun cached same => ?_) accessed rfl
    cases same
  | some cached =>
    subst held
    dsimp only at accessed
    split at accessed
    · rename_i fresh
      obtain ⟨answered, online⟩ := Prod.mk.inj (Option.some.inj accessed)
      obtain ⟨rfl, recorded⟩ := Online.mk.inj online
      have unasked : call.exchanges = [] := (congrArg Http.Recorded.exchanges recorded).symm
      exact .kept rfl (of_decide_eq_true fresh) unasked answered.symm
    · rename_i old
      refine .of_renew (fun other same => ?_) accessed rfl
      obtain rfl := Option.some.inj same
      exact Nat.le_of_not_lt fun fresh => old (decide_eq_true fresh)

theorem latest?_concat (calls : List TokenCall) (call : TokenCall) :
    latest? (calls ++ [call]) =
      match call.grant? with
      | some grant => some (call.time, grant)
      | none => latest? calls := by
  rw [latest?, List.filterMap_append]
  cases granted : call.grant? with
  | none => simp [granted, latest?]
  | some grant => simp [granted]

/-- The cache holds the latest token that was handed out, up to one minute before its end. -/
def stored (calls : List TokenCall) : Option CachedToken :=
  (latest? calls).map fun handed => .ofGrant 60 handed.1 handed.2

theorem Ends.stored_concat {former : List TokenCall} (ends : call.Ends (stored former) left) :
    left = stored (former ++ [call]) := by
  cases ends with
  | kept held fresh unasked answered =>
    have none : call.grant? = .none := by rw [grant?, unasked]
    rw [stored, stored, latest?_concat, none]
  | renewed stale asked target granted answered =>
    rw [stored, latest?_concat, granted]
    rfl
  | refused stale asked target ungranted answered =>
    rw [stored, stored, latest?_concat, ungranted]

end TokenCall

open TokenCall

variable {token last : Option CachedToken} {former latter calls : List TokenCall} {call : TokenCall}

theorem TokenCalls.split (made : TokenCalls network token (former ++ latter) last) :
    ∃ middle, TokenCalls network token former middle ∧ TokenCalls network middle latter last := by
  induction former generalizing token with
  | nil => exact ⟨token, .nothing token, made⟩
  | cons call former ih =>
    cases made with
    | call first rest =>
      obtain ⟨middle, one, two⟩ := ih rest
      exact ⟨middle, .call first one, two⟩

/-- After any calls the cache holds what was handed out last. -/
theorem TokenCalls.stored_append (made : TokenCalls network (stored former) calls last) :
    last = stored (former ++ calls) := by
  induction calls generalizing former with
  | nil =>
    cases made
    rw [List.append_nil]
  | cons call calls ih =>
    cases made with
    | call first rest =>
      obtain rfl := first.ends.stored_concat
      rw [ih rest, List.append_assoc, List.singleton_append]

namespace TokenCall

theorem exists_of_latest? {time : Nat} {grant : TokenGrant}
    (handed : latest? calls = some (time, grant)) : ∃ call ∈ calls, call.time = time := by
  obtain ⟨call, inside, found⟩ := List.mem_filterMap.1 (List.mem_of_getLast? handed)
  obtain ⟨_, -, same⟩ := Option.map_eq_some_iff.1 found
  exact ⟨call, inside, (Prod.mk.inj same).1⟩

/-- The metadata server is asked when it handed out no token before and when the latest one has no
more than a minute left, and it is asked once then. The answer of the call is the new token, or the
latest one with more than a minute left, or an error about the authorization. -/
structure Renews (former : List TokenCall) (call : TokenCall) : Prop where
  asks_iff : call.exchanges ≠ [] ↔ latest? former = none ∨
    ∃ time grant, latest? former = some (time, grant) ∧
      (time : ℤ) + max 0 ((grant.lifetime : ℤ) - 60) * 1000 ≤ call.time
  asked : call.exchanges ≠ [] →
    ∃ request exchange, call.exchanges = [(request, exchange)] ∧ AsksForToken request
  answered :
    (∃ grant, call.grant? = some grant ∧ call.answer = .ok grant.value) ∨
    (call.exchanges = [] ∧ ∃ time grant, latest? former = some (time, grant) ∧
      call.answer = .ok grant.value ∧
        call.time + 60 * 1000 < time + grant.lifetime * 1000) ∨
    (call.Fails ∧ ∃ detail, call.answer = .error (.unauthorized detail))

theorem asks_of_stale {time : Nat} (stale : Stale (stored former) time) :
    latest? former = none ∨ ∃ earlier grant, latest? former = some (earlier, grant) ∧
      (earlier : ℤ) + max 0 ((grant.lifetime : ℤ) - 60) * 1000 ≤ time := by
  cases handed : latest? former with
  | none => exact .inl rfl
  | some latest =>
    obtain ⟨earlier, grant⟩ := latest
    have ended : earlier + (grant.lifetime - 60) * 1000 ≤ time :=
      stale (.ofGrant 60 earlier grant) (by rw [stored, handed]; rfl)
    refine .inr ⟨earlier, grant, rfl, ?_⟩
    omega

theorem Ends.renews (ends : call.Ends (stored former) last)
    (ordered : ∀ earlier ∈ former, earlier.time ≤ call.time) : Renews former call := by
  cases ends with
  | @kept cached held fresh unasked answered =>
    obtain ⟨⟨time, grant⟩, handed, rfl⟩ := Option.map_eq_some_iff.1 held
    have fresh : call.time < time + (grant.lifetime - 60) * 1000 := fresh
    obtain ⟨earlier, inside, rfl⟩ := exists_of_latest? handed
    have passed := ordered earlier inside
    refine ⟨⟨fun asked => absurd unasked asked, ?_⟩, fun asked => absurd unasked asked, ?_⟩
    · rintro (none | ⟨time, other, same, ended⟩)
      · rw [handed] at none
        cases none
      · obtain ⟨rfl, rfl⟩ := Prod.mk.inj (Option.some.inj (handed.symm.trans same))
        omega
    · -- The call comes after the fetch, so a token that lives for a minute only is never fresh.
      refine .inr (.inl ⟨unasked, earlier.time, grant, handed, answered, ?_⟩)
      omega
  | @renewed request exchange grant stale asked target granted answered =>
    have sent : call.exchanges ≠ [] := by simp [asked]
    exact ⟨⟨fun _ => asks_of_stale stale, fun _ => sent⟩, fun _ => ⟨request, exchange, asked, target⟩,
      .inl ⟨grant, granted, answered⟩⟩
  | @refused request exchange detail stale asked target ungranted answered =>
    have sent : call.exchanges ≠ [] := by simp [asked]
    exact ⟨⟨fun _ => asks_of_stale stale, fun _ => sent⟩, fun _ => ⟨request, exchange, asked, target⟩,
      .inr (.inr ⟨⟨sent, ungranted⟩, detail, answered⟩)⟩

theorem Fails.left_eq (fails : call.Fails) (ends : call.Ends token last) : last = token := by
  cases ends with
  | kept held fresh unasked answered => rfl
  | renewed stale asked target granted answered =>
    rw [fails.2] at granted
    cases granted
  | refused => rfl

end TokenCall

/-- Whatever a client does in between, its calls for tokens at times that never run back ask the
metadata server just when there is need. A call that fails leaves the cached token as it is, and the
next call asks again. -/
theorem metadata_token_is_renewed_in_time (made : TokenCalls network none calls last)
    (ordered : calls.Pairwise fun one other => one.time ≤ other.time)
    (cut : calls = former ++ call :: latter) :
    Renews former call ∧
      (call.Fails →
        (∃ token, TokenCalls network none former token ∧ call.Made network token token ∧
          TokenCalls network token latter last) ∧
        ∀ next ∈ latter.head?, next.exchanges ≠ []) := by
  subst cut
  obtain ⟨token, before, rest⟩ := made.split
  have kept : token = stored ([] ++ former) := TokenCalls.stored_append before
  obtain rfl := kept
  cases rest with
  | @call _ middle _ _ _ here after =>
    obtain ⟨-, later, between⟩ := List.pairwise_append.1 ordered
    have renews : Renews former call := here.ends.renews fun earlier inside =>
      between earlier inside call List.mem_cons_self
    refine ⟨renews, fun fails => ?_⟩
    obtain rfl := fails.left_eq here.ends
    refine ⟨⟨_, before, here, after⟩, fun next first => ?_⟩
    cases after with
    | nothing => cases first
    | @call _ _ _ following _ second _ =>
      obtain rfl : following = next := Option.some.inj first
      have passed : call.time ≤ following.time :=
        (List.pairwise_cons.1 later).1 following List.mem_cons_self
      have again : Renews former following := second.ends.renews fun earlier inside =>
        between earlier inside following (List.mem_cons_of_mem _ List.mem_cons_self)
      apply again.asks_iff.2
      rcases renews.asks_iff.1 fails.1 with none | ⟨time, grant, handed, ended⟩
      · exact .inl none
      · refine .inr ⟨time, grant, handed, ended.trans ?_⟩
        exact_mod_cast passed

/-- This function calls for a token in a world. -/
def callAt (network : Http.Network World) (token : Option CachedToken) (time : Nat) (world : World) :
    Option (TokenCall × Option CachedToken) := do
  let (answer, online) ← Token.access network.recorded time .metadata ⟨token, ⟨world, []⟩⟩
  return (⟨time, online.world.exchanges, answer⟩, online.token)

/-- This function calls for tokens at times that are listed with the worlds. -/
def callAll (network : Http.Network World) :
    Option CachedToken → List (Nat × World) → Option (List TokenCall × Option CachedToken)
  | token, [] => some ([], token)
  | token, (time, world) :: visits => do
    let (call, middle) ← callAt network token time world
    let (calls, last) ← callAll network middle visits
    return (call :: calls, last)

theorem TokenCall.made_of_callAt {time : Nat} {world : World}
    (called : callAt network token time world = some (call, last)) :
    call.Made network token last := by
  obtain ⟨⟨answer, online⟩, accessed, same⟩ := Option.bind_eq_some_iff.1 called
  obtain ⟨rfl, rfl⟩ := Prod.mk.inj (Option.some.inj same)
  exact ⟨world, online.world.world, accessed⟩

theorem TokenCalls.of_callAll {visits : List (Nat × World)}
    (called : callAll network token visits = some (calls, last)) :
    TokenCalls network token calls last := by
  induction visits generalizing token calls with
  | nil =>
    obtain ⟨rfl, rfl⟩ := Prod.mk.inj (Option.some.inj called)
    exact .nothing token
  | cons visit visits ih =>
    obtain ⟨⟨call, middle⟩, here, called⟩ := Option.bind_eq_some_iff.1 called
    obtain ⟨⟨others, after⟩, rest, same⟩ := Option.bind_eq_some_iff.1 called
    obtain ⟨rfl, rfl⟩ := Prod.mk.inj (Option.some.inj same)
    exact .call (made_of_callAt here) (ih rest)

open Simulation

/-- In this world the server hands out a token that lives for a number of seconds. -/
def granting (token lifetime : String) : ScriptedNetwork :=
  ⟨true, [some ⟨200, none, some (Text.toBytes ("\x7b\"access_token\":\"" ++ token ++
    "\",\"expires_in\":" ++ lifetime ++ "\x7d"))⟩], []⟩

/-- A token that lives for an hour is used for 59 minutes. Then a fetch fails, the next one gets a
token that lives for half a minute, and this one is not used again. -/
def hourlyVisits : List (Nat × ScriptedNetwork) :=
  [(0, granting "a" "3600"), (3539999, .disconnected), (3540000, .disconnected),
    (3540000, granting "b" "30"), (3540000, granting "c" "61")]

def TokenCall.summary (call : TokenCall) : Nat × Nat × Option String :=
  (call.time, call.exchanges.length, call.answer.toOption)

theorem metadata_token_is_renewed_in_time_hourlyVisits :
    ∃ first second third fourth fifth last,
      TokenCalls Simulation.network none [first, second, third, fourth, fifth] last ∧
      [first, second, third, fourth, fifth].map summary =
        [(0, 1, some "a"), (3539999, 0, some "a"), (3540000, 1, none), (3540000, 1, some "b"),
          (3540000, 1, some "c")] ∧
      ([first, second, third, fourth, fifth].Pairwise fun one other => one.time ≤ other.time) ∧
      Renews [first, second] third ∧ third.Fails ∧ fourth.exchanges ≠ [] := by
  have read : (callAll Simulation.network none hourlyVisits).map (fun called =>
      called.1.map summary) = some
        [(0, 1, some "a"), (3539999, 0, some "a"), (3540000, 1, none), (3540000, 1, some "b"),
          (3540000, 1, some "c")] := by
    decide +kernel
  obtain ⟨⟨calls, last⟩, called, seen⟩ := Option.map_eq_some_iff.1 read
  have made := TokenCalls.of_callAll called
  have seen' := seen
  simp only [List.map_eq_cons_iff, List.map_eq_nil_iff] at seen'
  obtain ⟨first, _, rfl, one, second, _, rfl, two, third, _, rfl, three, fourth, _, rfl, four,
    fifth, _, rfl, five, rfl⟩ := seen'
  have time {call : TokenCall} {entry : Nat × Nat × Option String} (same : call.summary = entry) :
      call.time = entry.1 := congrArg Prod.fst same
  have ordered : [first, second, third, fourth, fifth].Pairwise
      fun one other => one.time ≤ other.time := by
    simp [time one, time two, time three, time four, time five]
  obtain ⟨renews, again⟩ := @metadata_token_is_renewed_in_time _ _ _ [first, second]
    [fourth, fifth] _ third made ordered rfl
  have fails : third.Fails := by
    have unanswered : third.answer.toOption = none :=
      congrArg (fun entry => entry.2.2) three
    rcases renews.answered with ⟨grant, -, answered⟩ | ⟨-, earlier, grant, -, answered, -⟩ | ⟨fails, -⟩
    · simp [answered, Except.toOption] at unanswered
    · simp [answered, Except.toOption] at unanswered
    · exact fails
  exact ⟨first, second, third, fourth, fifth, last, made, seen, ordered, renews, fails,
    (again fails).2 fourth rfl⟩

end Compute

end Scaledown
