/-
This file tells which runs end at the expansion of their hostlist.
-/

import Scaledown.Proofs.Config.Validation
import Scaledown.Proofs.Suspend.Progress

namespace Scaledown

/-- The first duration that cannot be read is reported with its text. -/
inductive Config.UnreadDuration (config : Config) : Config.Error → Prop where
  | pause (unread : Duration.ofText? config.suspend.batchPause = none) :
      UnreadDuration config (.duration "suspend.batch_pause" config.suspend.batchPause)
  | interval {pause : Duration}
      (read : Duration.ofText? config.suspend.batchPause = some pause)
      (unread : Duration.ofText? config.suspend.operationPollInterval = none) :
      UnreadDuration config
        (.duration "suspend.operation_poll_interval" config.suspend.operationPollInterval)

namespace Suspend

/-- A job has ended, and its first node lies on a known partition that is not exclusive. -/
def LeftToEpilog (config : Config) (trigger : Trigger) (expanded : List String) : Prop :=
  (∃ job, trigger = .jobCompletion job) ∧
    ∃ first others partition, expanded = first :: others ∧
      config.partition (partitionOf first) = .ok partition ∧ partition.exclusive = false

/-- Repeated hosts do not matter to the epilog, since the first host stays the first one. -/
theorem epilogHandles_distinct_iff {config : Config} {trigger : Trigger}
    {expanded : List String} :
    epilogHandles config (distinct expanded) trigger = true ↔
      LeftToEpilog config trigger expanded := by
  unfold LeftToEpilog
  cases trigger with
  | idle => simp [epilogHandles, Trigger.isJob]
  | jobCompletion job =>
    cases expanded with
    | nil => simp [epilogHandles, distinct]
    | cons first others =>
      simp only [epilogHandles, Trigger.isJob, distinct, Bool.true_and]
      cases known : config.partition (partitionOf first) <;> simp [known]

/-- A run fails exactly when the expansion failed. Nothing else is called then, nor for nodes that
are left to the epilog. -/
structure AbortsAtExpansion (config : Config) (request : Request)
    (answer : Except Scheduler.Error (List String)) (rest : List Event)
    (result : Except Error Report) : Prop where
  error_iff : ∀ error, result = .error error ↔
    ∃ reason, answer = .error reason ∧ error = .scheduler reason
  unexpanded : ∀ reason, answer = .error reason → rest = []
  skipped : ∀ expanded, answer = .ok expanded → LeftToEpilog config request.trigger expanded →
    rest = [] ∧
      result = .ok { Report.ofNodes expanded.toFinset.card with skippedByEpilog := true }
  reported : ∀ expanded report, answer = .ok expanded → result = .ok report →
    (report.skippedByEpilog = true ↔ LeftToEpilog config request.trigger expanded)

/-- The answer to the expansion ends the run. -/
inductive StopsAt (config : Config) (request : Request) :
    Except Scheduler.Error (List String) → Prop where
  | unexpanded (reason : Scheduler.Error) : StopsAt config request (.error reason)
  | skipped {expanded : List String}
      (left : LeftToEpilog config request.trigger expanded) :
      StopsAt config request (.ok expanded)

/-- A run with a valid configuration ends early at its expansion only. -/
theorem Ending.abortsAtExpansion {config : Config} {request : Request} {events : List Event}
    {result : Except Error Report} (valid : config.IsValid)
    (ending : Ending config request events result) :
    ∃ answer rest, events = .expandHostlist request.hostlist answer :: rest ∧
      AbortsAtExpansion config request answer rest result := by
  cases ending with
  | unconfigured error unread =>
    obtain ⟨pause, pausing⟩ := valid.batchPause
    obtain ⟨interval, polling⟩ := valid.operationPollInterval
    simp [pausing, polling] at unread
  | unexpanded error =>
    refine ⟨.error error, [], rfl, ?_, fun _ _ => rfl, ?_, ?_⟩
    · intro other
      simp [eq_comm]
    · intro expanded same
      cases same
    · intro expanded report same
      cases same
  | epilog expanded handled =>
    have left := epilogHandles_distinct_iff.1 handled
    refine ⟨.ok expanded, [], rfl, by simp, by simp, ?_, ?_⟩
    · rintro other ⟨⟩ -
      exact ⟨rfl, by rw [length_distinct]⟩
    · rintro other report ⟨⟩ ⟨⟩
      simp [left]
  | finished expanded unhandled stages =>
    have kept : ¬LeftToEpilog config request.trigger expanded := by
      rw [← epilogHandles_distinct_iff, unhandled]
      exact Bool.false_ne_true
    refine ⟨.ok expanded, stages.events, rfl, by simp, by simp, ?_, ?_⟩
    · rintro other ⟨⟩ left
      exact absurd left kept
    · rintro other report ⟨⟩ ⟨⟩
      simp [kept, Stages.report]

variable {World : Type} {collaborators : Collaborators World}

/-- No patience is needed for a run that ends at its expansion. -/
theorem run_stopsAt {config : Config} {request : Request} {world after : World}
    {answer : Except Scheduler.Error (List String)} (valid : config.IsValid)
    (expands : collaborators.scheduler.expandHostlist request.hostlist world =
      some (answer, after))
    (stops : StopsAt config request answer) :
    ∃ result, ∀ patience, run collaborators config patience request (.start world) =
      some (result,
        (Session.start world).record (.expandHostlist request.hostlist answer) after) := by
  obtain ⟨pause, pausing⟩ := valid.batchPause
  obtain ⟨interval, polling⟩ := valid.operationPollInterval
  have called : collaborators.expandHostlist request.hostlist (.start world) = _ :=
    Step.call_eq_some expands
  simp only [run, pausing, polling]
  cases stops with
  | unexpanded reason =>
    exact ⟨_, fun patience => Step.bind_eq_some.2 ⟨_, _, called, rfl⟩⟩
  | @skipped expanded left =>
    refine ⟨.ok { Report.ofNodes (distinct expanded).length with skippedByEpilog := true },
      fun patience => Step.bind_eq_some.2 ⟨_, _, called, ?_⟩⟩
    dsimp only
    rw [if_pos (epilogHandles_distinct_iff.2 left)]
    rfl

/-- A duration that cannot be read ends every run before its first call. -/
theorem run_of_unread (collaborators : Collaborators World) {config : Config}
    (unread : Duration.ofText? config.suspend.batchPause = none ∨
      Duration.ofText? config.suspend.operationPollInterval = none) :
    ∃ error, config.UnreadDuration error ∧ ∀ patience request (session : Session World),
      run collaborators config patience request session =
        some (.error (.config error), session) := by
  cases paused : Duration.ofText? config.suspend.batchPause with
  | none =>
    refine ⟨_, .pause paused, fun patience request session => ?_⟩
    simp only [run, Config.batchPause, paused]
    rfl
  | some pause =>
    have unread := unread.resolve_left (by simp [paused])
    refine ⟨_, .interval paused unread, fun patience request session => ?_⟩
    simp only [run, Config.batchPause, Config.operationPollInterval, paused, unread]
    rfl

/-- With a valid configuration a run fails exactly when the expansion fails, and nothing but the
expansion is called then or for nodes that are left to the epilog. A duration that cannot be read
fails a run before the expansion. -/
theorem run_aborts_only_at_expansion (collaborators : Collaborators World) (config : Config)
    (request : Request) (world : World) :
    (config.validate = .ok () →
      HoldsThroughout collaborators config request world (fun events result =>
        ∃ answer rest, events = .expandHostlist request.hostlist answer :: rest ∧
          AbortsAtExpansion config request answer rest result) ∧
      ∀ answer after, collaborators.scheduler.expandHostlist request.hostlist world =
          some (answer, after) → StopsAt config request answer →
        ∃ result, ∀ patience, run collaborators config patience request (.start world) =
          some (result,
            (Session.start world).record (.expandHostlist request.hostlist answer) after)) ∧
    ((Duration.ofText? config.suspend.batchPause = none ∨
        Duration.ofText? config.suspend.operationPollInterval = none) →
      ∃ error, config.UnreadDuration error ∧ ∀ patience (session : Session World),
        run collaborators config patience request session =
          some (.error (.config error), session)) := by
  refine ⟨fun accepted => ?_, fun unread => ?_⟩
  · have valid := Config.validate_eq_ok_iff.1 accepted
    exact ⟨.of_ending fun events result ending => ending.abortsAtExpansion valid,
      fun answer after expands stops => run_stopsAt valid expands stops⟩
  · obtain ⟨error, named, ended⟩ := run_of_unread collaborators unread
    exact ⟨error, named, fun patience session => ended patience request session⟩

/-- The pause of this configuration is no duration. -/
def unpacedPartitions : Config :=
  { fourPartitions with suspend := { fourPartitions.suspend with batchPause := "soon" } }

/-- The first of these hosts lies on a partition that is not exclusive. -/
def sharedHosts : List String :=
  ["fixed-0", "fixed-1", "fixed-0", "fixed-2", "chip-0", "own-0", "wide-0", "other-0"]

theorem run_aborts_only_at_expansion_mixedWorld :
    fourPartitions.validate = .ok () ∧
      Simulation.collaborators.scheduler.expandHostlist "nodes" mixedWorld =
        some (.ok sharedHosts, mixedWorld) ∧
      StopsAt fourPartitions ⟨"nodes", .jobCompletion 7⟩ (.ok sharedHosts) ∧
      (∃ result last, run Simulation.collaborators fourPartitions 5 ⟨"nodes", .jobCompletion 7⟩
          (.start mixedWorld) = some (result, last) ∧
        ∃ answer rest, last.events = .expandHostlist "nodes" answer :: rest ∧
          AbortsAtExpansion fourPartitions ⟨"nodes", .jobCompletion 7⟩ answer rest result) ∧
      Duration.ofText? unpacedPartitions.suspend.batchPause = none ∧
      ∃ error, unpacedPartitions.UnreadDuration error ∧
        run Simulation.collaborators unpacedPartitions 5 ⟨"nodes", .idle⟩ (.start mixedWorld) =
          some (.error (.config error), .start mixedWorld) := by
  have valid : fourPartitions.validate = .ok () := by
    decide +kernel
  have stops : StopsAt fourPartitions ⟨"nodes", .jobCompletion 7⟩ (.ok sharedHosts) :=
    .skipped ⟨⟨7, rfl⟩, _, _, _, rfl, rfl, rfl⟩
  have unread : Duration.ofText? unpacedPartitions.suspend.batchPause = none := by
    decide +kernel
  obtain ⟨throughout, early⟩ := (run_aborts_only_at_expansion Simulation.collaborators
    fourPartitions ⟨"nodes", .jobCompletion 7⟩ mixedWorld).1 valid
  obtain ⟨result, done⟩ := early (.ok sharedHosts) mixedWorld rfl stops
  obtain ⟨error, named, failed⟩ := (run_aborts_only_at_expansion Simulation.collaborators
    unpacedPartitions ⟨"nodes", .idle⟩ mixedWorld).2 (.inl unread)
  exact ⟨valid, rfl, stops, ⟨result, _, done 5, throughout.ended 5 _ _ (done 5)⟩, unread,
    error, named, failed 5 _⟩

end Suspend

end Scaledown
