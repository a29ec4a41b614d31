/-
This file shows what the environment of a job adds to a command line.
-/

import Mathlib.Data.List.Basic
import Scaledown.CommandLine.Arguments

namespace Scaledown.CommandLine

theorem wordOf_eq_operand {text : String} (plain : text.toList.head? ≠ some '-') :
    wordOf text = .operand := by
  unfold wordOf
  split <;> simp_all

variable {words : List String} {options : Options} {arguments : Arguments}

/-- Words that begin with no dash are operands up to the end of the command line. -/
theorem readWords_operands (options : Options)
    (plain : ∀ word ∈ words, word.toList.head? ≠ some '-') :
    readWords words options = (options.addOperands words).finish := by
  induction words generalizing options with
  | nil => simp [readWords, Options.addOperands]
  | cons word words ih =>
    obtain ⟨first, others⟩ := List.forall_mem_cons.1 plain
    rw [readWords.eq_def]
    simp only [wordOf_eq_operand first]
    rw [ih _ others]
    simp [Options.addOperands]

def Arguments.addOperands (arguments : Arguments) (operands : List String) : Arguments :=
  { arguments with operands := arguments.operands ++ operands }

theorem Options.finish_eq_run_iff :
    options.finish = .run arguments ↔ options.operands ≠ [] ∧
      arguments = ⟨options.operands, options.configPath.getD defaultConfigPath,
        options.debug⟩ := by
  unfold Options.finish
  split
  · next missing => simp [missing]
  · next given => simp [given, eq_comm]

theorem Options.finish_addOperands (accepted : options.finish = .run arguments)
    (operands : List String) :
    (options.addOperands operands).finish = .run (arguments.addOperands operands) := by
  obtain ⟨given, rfl⟩ := finish_eq_run_iff.1 accepted
  exact finish_eq_run_iff.2 ⟨by simp [Options.addOperands, given], rfl⟩

/-- Operands that stand behind an accepted command line are added to its own. -/
theorem readWords_append {extra : List String}
    (plain : ∀ word ∈ extra, word.toList.head? ≠ some '-')
    (accepted : readWords words options = .run arguments) :
    readWords (words ++ extra) options = .run (arguments.addOperands extra) := by
  -- An accepted command line ends with its last word or with the operands after two dashes, and
  -- before that it goes on after an operand or after one of two options.
  fun_induction readWords words options with
  | case1 options => simp [readWords_operands options plain, Options.finish_addOperands accepted]
  | case2 text rest options word ih =>
    rw [List.cons_append, readWords.eq_def]
    simp only [word, ih accepted]
  | case3 text rest options word =>
    rw [List.cons_append, readWords.eq_def]
    simp only [word]
    simpa [Options.addOperands] using Options.finish_addOperands accepted extra
  | case9 text rest options word next set ih =>
    rw [List.cons_append, readWords.eq_def]
    simp only [word, set, ih accepted]
  | case11 text rest options path word next set ih =>
    rw [List.cons_append, readWords.eq_def]
    simp only [word, set, ih accepted]
  | case14 text options word path rest next set operand ih =>
    rw [List.cons_append, List.cons_append, readWords.eq_def]
    simp only [word, set, operand, ih accepted]
  | _ => cases accepted

/-- No value of the environment begins with a dash. -/
def JobEnvironment.Plain (environment : JobEnvironment) : Prop :=
  ∀ value ∈ environment.nodes.toList ++ environment.job.toList, value.toList.head? ≠ some '-'

theorem JobEnvironment.extend_eq_append (environment : JobEnvironment) (words : List String) :
    environment.extend words = words ++ environment.extend [] := by
  unfold JobEnvironment.extend
  cases environment.nodes <;> simp

theorem JobEnvironment.extend_eq_nil_iff (environment : JobEnvironment) :
    environment.extend [] = [] ↔ environment.nodes = none := by
  unfold JobEnvironment.extend
  cases environment.nodes <;> simp

/-- The values of the environment stand behind the operands of the command line. -/
theorem read_extend {environment : JobEnvironment} (plain : environment.Plain)
    (accepted : read words = .run arguments) :
    read (environment.extend words) =
      .run (arguments.addOperands (environment.extend [])) := by
  rw [environment.extend_eq_append]
  refine readWords_append (fun word inside => plain word ?_) accepted
  unfold JobEnvironment.extend at inside
  cases present : environment.nodes with
  | none => simp [present] at inside
  | some nodes => simpa [present] using inside

theorem operands_ne_nil_of_readWords (accepted : readWords words options = .run arguments) :
    arguments.operands ≠ [] := by
  fun_induction readWords words options with
  | case1 | case3 =>
    obtain ⟨given, rfl⟩ := Options.finish_eq_run_iff.1 accepted
    exact given
  | case2 _ _ _ _ ih => exact ih accepted
  | case9 _ _ _ _ _ _ ih => exact ih accepted
  | case11 _ _ _ _ _ _ _ ih => exact ih accepted
  | case14 _ _ _ _ _ _ _ _ ih => exact ih accepted
  | _ => cases accepted

namespace Arguments

theorem hostlist_addOperands (given : arguments.operands ≠ []) (operands : List String) :
    (arguments.addOperands operands).hostlist = arguments.hostlist := by
  rw [hostlist, hostlist, addOperands, List.head?_append_of_ne_nil _ given]

theorem job?_eq_none_iff : arguments.job? = .ok none ↔ arguments.operands[1]? = none := by
  unfold job?
  cases arguments.operands[1]? with
  | none => simp
  | some operand =>
    dsimp only
    cases Text.decimal Text.maxWord64 operand.toList <;> simp

/-- A job that is there stays, and the first new operand takes the place of a missing one. -/
theorem job?_addOperands_eq_iff {job : Option Nat} (given : arguments.operands ≠ [])
    (known : arguments.job? = .ok job) (operands : List String) :
    (arguments.addOperands operands).job? = .ok job ↔ operands = [] ∨ job ≠ none := by
  cases present : arguments.operands[1]? with
  | none =>
    obtain rfl : job = none := by
      rw [job?_eq_none_iff.2 present] at known
      exact (Except.ok.inj known).symm
    have single : arguments.operands.length = 1 :=
      Nat.le_antisymm (List.getElem?_eq_none_iff.1 present) (List.length_pos_iff.2 given)
    rw [job?_eq_none_iff, addOperands, List.getElem?_append_right (Nat.le_of_eq single), single]
    simp
  | some operand =>
    have kept : (arguments.addOperands operands).job? = arguments.job? := by
      have second : (arguments.operands ++ operands)[1]? = arguments.operands[1]? :=
        List.getElem?_append_left (List.getElem?_eq_some_iff.1 present).1
      rw [job?, job?, addOperands, second]
    have named : job ≠ none := by
      rintro rfl
      rw [job?_eq_none_iff.1 known] at present
      cases present
    simp [kept, known, named]

end Arguments

/-- The environment of a job keeps the hostlist and every other argument of a command line. It
keeps the job too when the command line names one, and only then, since the nodes of the
environment take the place of a missing job. -/
theorem job_environment_keeps_named_job {environment : JobEnvironment} {job : Option Nat}
    (accepted : read words = .run arguments) (known : arguments.job? = .ok job)
    (plain : environment.Plain) :
    ∃ extended, read (environment.extend words) = .run extended ∧
      extended.hostlist = arguments.hostlist ∧
      extended.configPath = arguments.configPath ∧ extended.debug = arguments.debug ∧
      (extended.job? = .ok job ↔ environment.nodes = none ∨ job ≠ none) := by
  have given := operands_ne_nil_of_readWords accepted
  refine ⟨arguments.addOperands (environment.extend []), read_extend plain accepted,
    Arguments.hostlist_addOperands given _, rfl, rfl, ?_⟩
  rw [Arguments.job?_addOperands_eq_iff given known, environment.extend_eq_nil_iff]

/-- The epilog of job 77 runs on two nodes. -/
def epilog : JobEnvironment := ⟨some "cluster-c2-[0-1]", some "77"⟩

theorem epilog_plain : epilog.Plain := by
  simp [JobEnvironment.Plain, epilog]

theorem job_environment_keeps_named_job_epilog :
    read ["cluster-p1-[0-1]", "12"] = .run ⟨["cluster-p1-[0-1]", "12"], defaultConfigPath, false⟩ ∧
      epilog.Plain ∧
      ∃ extended, read (epilog.extend ["cluster-p1-[0-1]", "12"]) = .run extended ∧
        extended.hostlist = "cluster-p1-[0-1]" ∧
        extended.configPath = defaultConfigPath ∧ extended.debug = false ∧
        extended.job? = .ok (some 12) := by
  have accepted : read ["cluster-p1-[0-1]", "12"] =
      .run ⟨["cluster-p1-[0-1]", "12"], defaultConfigPath, false⟩ := by decide +kernel
  have known : Arguments.job? ⟨["cluster-p1-[0-1]", "12"], defaultConfigPath, false⟩ =
      .ok (some 12) := by decide +kernel
  obtain ⟨extended, parsed, hostlist, path, debug, job⟩ :=
    job_environment_keeps_named_job accepted known epilog_plain
  exact ⟨accepted, epilog_plain, extended, parsed, hostlist, path, debug,
    job.2 (.inr (Option.some_ne_none 12))⟩

/-- A command line without a job takes the nodes of the environment for one. -/
theorem epilog_nodes_replace_missing_job :
    read ["other-0", "--config", "config.toml"] = .run ⟨["other-0"], "config.toml", false⟩ ∧
      Arguments.job? ⟨["other-0"], "config.toml", false⟩ = .ok none ∧ epilog.Plain ∧
      read (epilog.extend ["other-0", "--config", "config.toml"]) =
        .run ⟨["other-0", "cluster-c2-[0-1]", "77"], "config.toml", false⟩ ∧
      Arguments.job? ⟨["other-0", "cluster-c2-[0-1]", "77"], "config.toml", false⟩ ≠
        .ok none :=
  ⟨by decide +kernel, by decide +kernel, epilog_plain, by decide +kernel, by decide +kernel⟩

end Scaledown.CommandLine
