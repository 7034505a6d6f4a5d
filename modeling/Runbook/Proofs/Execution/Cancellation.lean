import Runbook.Proofs.Execution.Bench
import Runbook.Proofs.Execution.FailStop
import Runbook.Proofs.Execution.Likeness
import Runbook.Proofs.Execution.Walk

/-! What a cancellation changes: nothing but what comes after the command during which it came.

A run and its cancelled copy are similar procedures, so they go along together until the copy is told
of the cancellation. The walk of a run says where that can be.
-/

set_option autoImplicit false

namespace Runbook.Execution

/-- What passes after the command of a number was sent and answered. -/
def afterCommand : Nat → List Exchange → List Exchange
  | 0, dialogue => dialogue
  | _ + 1, [] => []
  | number + 1, .sent _ _ _ :: rest => afterCommand number rest
  | number + 1, .polled _ :: rest => afterCommand (number + 1) rest
  | number + 1, .read _ :: rest => afterCommand (number + 1) rest
  | number + 1, .stored _ _ :: rest => afterCommand (number + 1) rest
  | number + 1, .announced _ _ :: rest => afterCommand (number + 1) rest

/-- Two dialogues with their results, the second cancelled during the command of a number. They agree
until the second is told; `sent` commands came before. -/
inductive Parallel {α : Type} (R : α → α → Prop) (number : Nat) :
    (sent : Nat) → List Exchange → α → List Exchange → α → Prop
  | done {sent : Nat} {a b : α} : R a b → Parallel R number sent [] a [] b
  | sent {sent : Nat} {command : String} {timeout : UInt64} {reply : Device.Reply}
      {first second : List Exchange} {a b : α} :
      Parallel R number (sent + 1) first a second b →
      Parallel R number sent (.sent command timeout reply :: first) a
        (.sent command timeout reply :: second) b
  | polled {sent : Nat} {first second : List Exchange} {a b : α} :
      sent < number → Parallel R number sent first a second b →
      Parallel R number sent (.polled false :: first) a (.polled false :: second) b
  | parted {sent : Nat} {first second : List Exchange} {a b : α} :
      number ≤ sent →
      Parallel R number sent (.polled false :: first) a (.polled true :: second) b
  | read {sent : Nat} {now later : Time.Instant} {first second : List Exchange} {a b : α} :
      Parallel R number sent first a second b →
      Parallel R number sent (.read now :: first) a (.read later :: second) b
  | stored {sent : Nat} {run copy : Run} {result : Except Store.Error Unit}
      {first second : List Exchange} {a b : α} :
      run.outline = copy.outline → Parallel R number sent first a second b →
      Parallel R number sent (.stored run result :: first) a (.stored copy result :: second) b
  | announced {sent : Nat} {kind : Notification.EventKind} {run copy : Run}
      {first second : List Exchange} {a b : α} :
      run.outline = copy.outline → Parallel R number sent first a second b →
      Parallel R number sent (.announced kind run :: first) a (.announced kind copy :: second) b

section
variable {α : Type} {R : α → α → Prop} {number sent : Nat} {first second : List Exchange} {a b : α}

theorem Parallel.afterCommand (parallel : Parallel R number sent first a second b) {count : Nat}
    (within : sent + count ≤ number) (enough : count ≤ (commandsOf first).length) :
    Parallel R number (sent + count) (afterCommand count first) a (afterCommand count second) b ∧
      (commandsOf second).take count = (commandsOf first).take count := by
  induction parallel generalizing count with
  | done related =>
    cases Nat.le_zero.1 enough
    exact ⟨.done related, rfl⟩
  | @sent sent command _ _ first second _ _ rest ih =>
    cases count with
    | zero => exact ⟨.sent rest, rfl⟩
    | succ count =>
      obtain ⟨parallel, same⟩ := ih (by omega) (Nat.le_of_succ_le_succ enough)
      rw [Nat.add_right_comm, Nat.add_assoc] at parallel
      exact ⟨parallel, congrArg (command :: ·) same⟩
  | polled early rest ih =>
    cases count with
    | zero => exact ⟨.polled early rest, rfl⟩
    | succ count => exact ih within enough
  | parted late =>
    cases count with
    | zero => exact ⟨.parted late, rfl⟩
    | succ count =>
      -- The two do not part before the command of the number.
      omega
  | read rest ih =>
    cases count with
    | zero => exact ⟨.read rest, rfl⟩
    | succ count => exact ih within enough
  | stored same rest ih =>
    cases count with
    | zero => exact ⟨.stored same rest, rfl⟩
    | succ count => exact ih within enough
  | announced same rest ih =>
    cases count with
    | zero => exact ⟨.announced same rest, rfl⟩
    | succ count => exact ih within enough

theorem Parallel.result (parallel : Parallel R number sent first a second b)
    (unasked : Unasked first) : R a b := by
  induction parallel with
  | done related => exact related
  | sent _ ih => exact ih (List.forall_mem_cons.1 unasked).2
  | polled => cases (List.forall_mem_cons.1 unasked).1
  | parted => cases (List.forall_mem_cons.1 unasked).1
  | read _ ih => exact ih (List.forall_mem_cons.1 unasked).2
  | stored _ _ ih => exact ih (List.forall_mem_cons.1 unasked).2
  | announced _ _ ih => exact ih (List.forall_mem_cons.1 unasked).2

end

section
variable {σ τ α : Type} {world : World σ} {other : World τ} {answers : Answers}
  {sent : σ → List String} {otherSent : τ → List String} {number : Nat}

/-- Similar procedures have parallel dialogues, with a device that answers both in the same way. -/
theorem Similar.parallel {R : α → α → Prop} {p q : Procedure α}
    (similar : Similar (fun run copy => run.outline = copy.outline) R p q)
    (serves : world.Serves answers sent) (otherServes : other.Serves answers otherSent)
    (reliable : world.StoresAll) (otherReliable : other.StoresAll)
    (undisturbed : ∀ s, (world.poll s).1 = false)
    (cancelled : ∀ t, (other.poll t).1 = decide (number ≤ (otherSent t).length))
    (s : σ) (t : τ) (same : sent s = otherSent t) :
    Parallel R number (sent s).length (p.dialogue world s) (p.runIn world s).1
      (q.dialogue other t) (q.runIn other t).1 := by
  induction similar generalizing s t with
  | done related => exact .done related
  | @send command timeout next copy _ ih =>
    have rest := ih (world.send s command timeout).1 (world.send s command timeout).2
      (other.send t command timeout).2 (by rw [serves.after_send, otherServes.after_send, same])
    have reply : (other.send t command timeout).1 = (world.send s command timeout).1 := by
      rw [serves.reply, otherServes.reply, same]
    rw [serves.after_send, List.length_append] at rest
    simp only [Procedure.dialogue, Procedure.runIn, reply]
    exact .sent rest
  | @poll next copy _ ih =>
    -- Both have sent the same so far, so that is where the second is told.
    simp only [Procedure.dialogue, Procedure.runIn, undisturbed, cancelled]
    rw [← same]
    by_cases reached : number ≤ (sent s).length
    · rw [decide_eq_true reached]
      exact .parted reached
    · rw [decide_eq_false reached]
      have rest := ih false (world.poll s).2 (other.poll t).2
        (by rw [serves.after_poll, otherServes.after_poll, same])
      rw [serves.after_poll] at rest
      exact .polled (Nat.lt_of_not_le reached) rest
  | @clock next copy _ ih =>
    have rest := ih (world.clock s).1 (other.clock t).1 (world.clock s).2 (other.clock t).2
      (by rw [serves.after_clock, otherServes.after_clock, same])
    rw [serves.after_clock] at rest
    exact .read rest
  | @update run copied next copy alike _ ih =>
    have rest := ih (.ok ()) (world.update s run).2 (other.update t copied).2
      (by rw [serves.after_update, otherServes.after_update, same])
    rw [serves.after_update] at rest
    simp only [Procedure.dialogue, Procedure.runIn, reliable s run, otherReliable t copied]
    exact .stored alike rest
  | @announce kind run copied next copy alike _ ih =>
    have rest := ih (world.announce s kind run) (other.announce t kind copied)
      (by rw [serves.after_announce, otherServes.after_announce, same])
    rw [serves.after_announce] at rest
    exact .announced alike rest

end

/-! ### Where a command stands in a walk -/

section
variable {record after : Run} {step : Step} {number : Nat}

/-- A command of a run, counted from 0: the record it started from, its step, and what followed. -/
structure Standing (number : Nat) (dialogue : List Exchange) (after record : Run) (step : Step)
    (rest : List Exchange) : Prop where
  answered : ∃ now, afterCommand (number + 1) dialogue =
    .read now :: .stored (record.append [step]) (.ok ()) :: rest
  command : (commandsOf dialogue)[number]? = some step.commandSent
  steps : ∃ later, after.steps = record.steps ++ step :: later
  unasked : step.error.isSome = true ∨ step.stage = .rollback → Unasked rest
  goesOn : step.error = none → step.stage ≠ .rollback → Walk true (record.append [step]) rest after

theorem Standing.of_rest {dialogue whole : List Exchange} {other : Nat}
    {first : Run} {own : Step} {rest : List Exchange}
    (standing : Standing other dialogue after first own rest)
    (answered : afterCommand (number + 1) whole = afterCommand (other + 1) dialogue)
    (command : (commandsOf whole)[number]? = (commandsOf dialogue)[other]?) :
    Standing number whole after first own rest where
  answered := answered ▸ standing.answered
  command := command.trans standing.command
  steps := standing.steps
  unasked := standing.unasked
  goesOn := standing.goesOn

theorem Carried.locate {item : List Exchange} (carried : Carried record step item)
    (rest : List Exchange) (enough : number < (commandsOf (item ++ rest)).length) :
    (∃ now, afterCommand (number + 1) (item ++ rest) =
        .read now :: .stored (record.append [step]) (.ok ()) :: rest ∧
      (commandsOf (item ++ rest))[number]? = some step.commandSent) ∨
    ∃ other < (commandsOf rest).length,
      afterCommand (number + 1) (item ++ rest) = afterCommand (other + 1) rest ∧
      (commandsOf (item ++ rest))[number]? = (commandsOf rest)[other]? := by
  cases carried with
  | unsent => exact .inr ⟨number, enough, rfl, rfl⟩
  | sent same =>
    cases number with
    | zero => exact .inl ⟨_, rfl, congrArg some same.symm⟩
    | succ number => exact .inr ⟨number, Nat.lt_of_succ_lt_succ enough, rfl, rfl⟩

theorem not_lt_commandsOf_closing (now : Time.Instant) (run : Run) :
    ¬number < (commandsOf (.read now :: closing run)).length := by
  rw [commandsOf_closing]
  exact Nat.not_lt_zero number

theorem Walk.standing {cancellable : Bool} {dialogue : List Exchange}
    (walk : Walk cancellable record dialogue after)
    (phase : record.currentStage = some .rollback ↔ cancellable = false)
    (enough : number < (commandsOf dialogue).length) :
    ∃ record step rest, Standing number dialogue after record step rest := by
  -- Along the walk: the command is the one carried out now, or one of the rest by another number.
  induction walk generalizing number with
  | @carried cancellable record after step item rest carried current success walk ih =>
    have looked : commandsOf (polls cancellable ++ (item ++ rest)) = commandsOf (item ++ rest) := by
      cases cancellable <;> rfl
    have passed : afterCommand (number + 1) (polls cancellable ++ (item ++ rest)) =
        afterCommand (number + 1) (item ++ rest) := by cases cancellable <;> rfl
    rw [looked] at enough
    have atStage : step.stage = .rollback ↔ cancellable = false := by
      rw [← phase, current, Option.some.injEq]
    rcases carried.locate rest enough with ⟨now, answered, command⟩ | ⟨other, fewer, same, command⟩
    · refine ⟨record, step, rest, ⟨now, passed.trans answered⟩, looked ▸ command, ?_, ?_, ?_⟩
      · obtain ⟨later, steps⟩ := walk.steps
        exact ⟨later, by rw [steps, Run.append_steps, List.append_assoc]; rfl⟩
      · -- Without an error only the rollback goes on unasked.
        rintro (failed | rolling)
        · rw [success] at failed
          cases failed
        · exact walk.unasked (atStage.1 rolling)
      · intro _ forward
        cases cancellable with
        | true => exact walk
        | false => exact absurd (atStage.2 rfl) forward
    · obtain ⟨first, own, left, standing⟩ := ih phase fewer
      exact ⟨first, own, left, standing.of_rest (passed.trans same) (looked ▸ command)⟩
  | @failed record after step item rest failure carried current failed walk ih =>
    rcases carried.locate _ enough with ⟨now, answered, command⟩ | ⟨other, fewer, same, command⟩
    · refine ⟨record, step, _, ⟨now, answered⟩, command, ?_, fun _ => ?_, fun success => ?_⟩
      · obtain ⟨later, steps⟩ := walk.steps
        exact ⟨later, steps.trans (List.append_assoc record.steps [step] later)⟩
      · exact List.forall_mem_cons.2 ⟨rfl, walk.unasked rfl⟩
      · rw [failure?_eq_none_iff.2 success] at failed
        cases failed
    · obtain ⟨first, own, left, standing⟩ := ih ⟨fun _ => rfl, fun _ => rfl⟩ fewer
      exact ⟨first, own, left, standing.of_rest same command⟩
  | @entered record after stage rest forward walk ih =>
    have still : some stage = some Stage.rollback ↔ true = false := by simp [forward]
    obtain ⟨first, own, left, standing⟩ := ih still enough
    exact ⟨first, own, left, standing.of_rest rfl rfl⟩
  | @cancelled _ now => exact absurd enough (not_lt_commandsOf_closing now _)
  | completed => exact absurd enough (not_lt_commandsOf_closing _ _)
  | rolledBack => exact absurd enough (not_lt_commandsOf_closing _ _)
  | nothingToDo => exact absurd enough (not_lt_commandsOf_closing _ _)
  | @rollbackFailed record step item failure now carried current failed =>
    rcases carried.locate _ enough with ⟨_, answered, command⟩ | ⟨other, fewer, -, -⟩
    · refine ⟨record, step, _, ⟨_, answered⟩, command, ⟨[], rfl⟩, ?_, fun success => ?_⟩
      · exact fun _ => unasked_closing _ _
      · rw [failure?_eq_none_iff.2 success] at failed
        cases failed
    · exact absurd fewer (not_lt_commandsOf_closing _ _)

end

/-! ### Two runs -/

theorem Walk.ends {α : Type} {R : α → α → Prop} {number sent : Nat} {record after : Run}
    {first second : List Exchange} {a b : α} (walk : Walk true record second after)
    (parallel : Parallel R number sent first a second b) (late : number ≤ sent) :
    after.steps = record.steps ∧ commandsOf second = [] := by
  -- A poll that still finds nothing would come too late.
  have told {rest : List Exchange} (parallel : Parallel R number sent first a (.polled false :: rest) b) :
      False := by
    cases parallel with
    | polled early => exact absurd late (Nat.not_le_of_lt early)
  generalize forward : true = cancellable at walk
  cases walk with
  | carried =>
    subst forward
    exact (told parallel).elim
  | failed => exact (told parallel).elim
  | entered => exact (told parallel).elim
  | @cancelled _ now => exact ⟨rfl, commandsOf_closing now _⟩
  | completed => exact ⟨rfl, commandsOf_closing _ _⟩
  | rolledBack => cases forward
  | nothingToDo => cases forward
  | rollbackFailed => cases forward

theorem length_commandsOf_afterCommand {number : Nat} {dialogue : List Exchange}
    (enough : number ≤ (commandsOf dialogue).length) :
    (commandsOf dialogue).length = number + (commandsOf (afterCommand number dialogue)).length := by
  induction number, dialogue using afterCommand.induct with
  | case1 dialogue => rw [afterCommand, Nat.zero_add]
  | case2 number => exact absurd enough (Nat.not_succ_le_zero number)
  | case3 number command timeout reply rest ih =>
    have inner := ih (Nat.le_of_succ_le_succ enough)
    have counted : (commandsOf (.sent command timeout reply :: rest)).length =
        (commandsOf rest).length + 1 := rfl
    rw [counted, inner, afterCommand]
    omega
  | case4 number cancelled rest ih => exact ih enough
  | case5 number now rest ih => exact ih enough
  | case6 number run result rest ih => exact ih enough
  | case7 number kind run rest ih => exact ih enough

theorem Course.standing {settings : Settings} {workflow : Workflow} {run after : Run}
    {dialogue : List Exchange} {number : Nat} (course : Course settings workflow run dialogue after)
    (enough : number < (commandsOf dialogue).length) :
    ∃ record step rest, Standing number dialogue after record step rest := by
  rcases course.walk with ⟨now, rfl, rfl⟩ | ⟨now, rest, rfl, walk⟩
  · exact absurd enough (not_lt_commandsOf_closing now _)
  · have start : (begun run now).currentStage = some .rollback ↔ true = false := by simp [begun]
    obtain ⟨record, step, left, standing⟩ := walk.standing start enough
    exact ⟨record, step, left, standing.of_rest rfl rfl⟩

/-- Results of runs that agree apart from identifiers and times. -/
def SameOutline (result copy : Except Error Run) : Prop :=
  result.map Run.outline = copy.map Run.outline

theorem Standing.compare {settings : Settings} {workflow : Workflow} {pending run copy : Run}
    {dialogue copied : List Exchange} {number : Nat} {record : Run} {step : Step}
    {rest : List Exchange} (standing : Standing number dialogue run record step rest)
    (course : Course settings workflow pending copied copy)
    (parallel : Parallel SameOutline (number + 1) 0 dialogue (.ok run) copied (.ok copy))
    (enough : number < (commandsOf dialogue).length) :
    (copy.steps.take (record.steps.length + 1)).map Step.untimed =
        (record.steps ++ [step]).map Step.untimed ∧
      (step.error.isSome = true ∨ step.stage = .rollback → copy.outline = run.outline) ∧
      (step.error = none → step.stage ≠ .rollback → copy.steps.length = record.steps.length + 1 ∧
        commandsOf copied = (commandsOf dialogue).take (number + 1)) := by
  obtain ⟨after, taken⟩ := parallel.afterCommand (Nat.le_of_eq (Nat.zero_add _)) enough
  have enoughCopied : number < (commandsOf copied).length := by
    have lengths := congrArg List.length taken
    rw [List.length_take, List.length_take] at lengths
    omega
  obtain ⟨own, ownStep, ownRest, ownStanding⟩ := course.standing enoughCopied
  obtain ⟨now, answered⟩ := standing.answered
  obtain ⟨later, ownAnswered⟩ := ownStanding.answered
  rw [Nat.zero_add, answered, ownAnswered] at after
  cases after with
  | read after =>
  cases after with
  | stored same after =>
  -- Both have just stored the step of the command, so it is the last one of either record.
  have steps : (record.steps ++ [step]).map Step.untimed =
      (own.steps ++ [ownStep]).map Step.untimed := congrArg Run.Outline.steps same
  obtain ⟨others, copySteps⟩ := ownStanding.steps
  have length : record.steps.length = own.steps.length := by
    have lengths := congrArg List.length steps
    simpa using lengths
  have sameStep : step.untimed = ownStep.untimed := by
    rw [List.map_append, List.map_append] at steps
    exact List.singleton_inj.1 (List.append_inj_right' steps rfl)
  refine ⟨?_, fun through => ?_, fun success forward => ?_⟩
  · rw [copySteps, length, steps, ← List.singleton_append, ← List.append_assoc]
    have exactly : (own.steps ++ [ownStep]).length = own.steps.length + 1 := List.length_append
    rw [← exactly, List.take_left]
  · -- No poll is left that could tell the second run.
    have agree := after.result (standing.unasked through)
    exact (Except.ok.inj agree).symm
  · have sameError : step.error = ownStep.error := (congrArg Step.error sameStep :)
    have sameStage : step.stage = ownStep.stage := (congrArg Step.stage sameStep :)
    -- The next thing in the second run is a poll, or its end.
    have walk := ownStanding.goesOn (sameError ▸ success) (sameStage ▸ forward)
    obtain ⟨ended, silent⟩ := walk.ends after (Nat.le_refl _)
    constructor
    · rw [ended, Run.append_steps, List.length_append, length]
      rfl
    · have total := length_commandsOf_afterCommand enoughCopied
      have none : commandsOf (afterCommand (number + 1) copied) = [] := by
        rw [ownAnswered]
        exact silent
      rw [none] at total
      rw [← taken]
      exact (List.take_of_length_le (Nat.le_of_eq total)).symm

section
variable {σ τ : Type} {world : World σ} {other : World τ} {answers : Answers}
  {sent : σ → List String} {otherSent : τ → List String}

/-- A run and the same run with a cancellation during the command of a number, counted from 1. Up to
the step of this command they agree. If that step has an error, or is one of the rollback, the runs
agree to their end, and otherwise the cancelled run ends there. -/
theorem cancellation_changes_only_the_rest (settings : Settings) (workflow : Workflow)
    (parameters : Bindings) (id otherId : RunId) (workflowId otherWorkflowId : WorkflowId)
    (deviceId otherDeviceId : DeviceId) (createdAt otherCreatedAt : Time.Instant)
    (serves : world.Serves answers sent) (otherServes : other.Serves answers otherSent)
    (reliable : world.StoresAll) (otherReliable : other.StoresAll) (number : Nat)
    (undisturbed : ∀ s, (world.poll s).1 = false)
    (cancelled : ∀ t, (other.poll t).1 = decide (number ≤ (otherSent t).length))
    (s : σ) (t : τ) (unused : sent s = []) (otherUnused : otherSent t = [])
    (positive : 0 < number)
    (reached : number ≤ (sent ((execute settings workflow
      (.new id workflowId deviceId parameters createdAt)).run.runIn world s).2).length) :
    ∃ run after copy otherAfter,
      (execute settings workflow (.new id workflowId deviceId parameters createdAt)).run.runIn
        world s = (.ok run, after) ∧
      (execute settings workflow (.new otherId otherWorkflowId otherDeviceId parameters
        otherCreatedAt)).run.runIn other t = (.ok copy, otherAfter) ∧
      ∃ before step later, run.steps = before ++ step :: later ∧
        (sent after)[number - 1]? = some step.commandSent ∧
        (∃ record now rest, record.steps = before ++ [step] ∧
          afterCommand number ((execute settings workflow
            (.new id workflowId deviceId parameters createdAt)).run.dialogue world s) =
              .read now :: .stored record (.ok ()) :: rest) ∧
        (copy.steps.take (before.length + 1)).map Step.untimed =
          (before ++ [step]).map Step.untimed ∧
        (step.error.isSome = true ∨ step.stage = .rollback → copy.outline = run.outline) ∧
        (step.error = none → step.stage ≠ .rollback →
          copy.steps.length = before.length + 1 ∧ otherSent otherAfter = (sent after).take number) := by
  obtain ⟨number, rfl⟩ := Nat.exists_eq_succ_of_ne_zero (Nat.ne_of_gt positive)
  have pending : (Run.new id workflowId deviceId parameters createdAt).status = .pending := rfl
  have otherPending : (Run.new otherId otherWorkflowId otherDeviceId parameters
    otherCreatedAt).status = .pending := rfl
  have alike : (Run.new id workflowId deviceId parameters createdAt).outline =
    (Run.new otherId otherWorkflowId otherDeviceId parameters otherCreatedAt).outline := rfl
  obtain ⟨run, returned⟩ := returns_of_storesAll settings workflow reliable pending s
  obtain ⟨copy, otherReturned⟩ :=
    returns_of_storesAll settings workflow otherReliable otherPending t
  -- The polls are all that tells the two runs apart, and they answer alike up to the command.
  have parallel := Similar.parallel (alike_execute settings workflow alike) serves otherServes
    reliable otherReliable undisturbed cancelled s t (unused.trans otherUnused.symm)
  rw [returned, otherReturned, unused] at parallel
  rw [serves.sent_runIn, unused, List.nil_append] at reached
  -- How the undisturbed run stands when the command has been answered.
  obtain ⟨record, step, rest, standing⟩ := (course_of_returned returned).standing reached
  obtain ⟨taken, through, ends⟩ :=
    standing.compare (course_of_returned otherReturned) parallel reached
  obtain ⟨later, steps⟩ := standing.steps
  obtain ⟨now, answered⟩ := standing.answered
  refine ⟨run, _, copy, _, Prod.ext returned rfl, Prod.ext otherReturned rfl, record.steps, step,
    later, steps, ?_, ⟨_, now, rest, rfl, answered⟩, taken, through, fun success forward => ?_⟩
  · rw [serves.sent_runIn, unused]
    exact standing.command
  · rw [serves.sent_runIn, otherServes.sent_runIn, unused, otherUnused]
    exact ends success forward

theorem cancellation_on_bench :
    ∃ run after copy otherAfter,
      (execute {} Bench.workflow Bench.pending).run.runIn (Bench.world Bench.answers none) {} =
        (.ok run, after) ∧
      (execute {} Bench.workflow Bench.pending).run.runIn (Bench.world Bench.answers (some 2)) {} =
        (.ok copy, otherAfter) ∧
      copy.status = .cancelled ∧ run.status = .failed ∧
      ∃ before step later, run.steps = before ++ step :: later ∧
        after.sent[1]? = some step.commandSent ∧
        (copy.steps.take (before.length + 1)).map Step.untimed =
          (before ++ [step]).map Step.untimed := by
  obtain ⟨run, after, copy, otherAfter, returned, otherReturned, before, step, later, steps,
      command, -, taken, -⟩ :=
    cancellation_changes_only_the_rest {} Bench.workflow Bench.parameters (.ofSerial 1)
      (.ofSerial 1) Bench.workflow.id Bench.workflow.id ⟨"bench"⟩ ⟨"bench"⟩ ⟨0, 0⟩ ⟨0, 0⟩
      (Bench.serves Bench.answers none) (Bench.serves Bench.answers (some 2))
      (Bench.storesAll Bench.answers none) (Bench.storesAll Bench.answers (some 2)) 2
      (fun _ => rfl) (fun _ => rfl) {} {} rfl rfl (by decide) (by decide +kernel)
  have cancelled : ((execute {} Bench.workflow Bench.pending).run.runIn
      (Bench.world Bench.answers (some 2)) {}).1.toOption.map Run.status = some .cancelled := by
    decide +kernel
  have failed : ((execute {} Bench.workflow Bench.pending).run.runIn
      (Bench.world Bench.answers none) {}).1.toOption.map Run.status = some .failed := by
    decide +kernel
  rw [Bench.pending, otherReturned] at cancelled
  rw [Bench.pending, returned] at failed
  exact ⟨run, after, copy, otherAfter, returned, otherReturned, Option.some.inj cancelled,
    Option.some.inj failed, before, step, later, steps, command, taken⟩

end

end Runbook.Execution
