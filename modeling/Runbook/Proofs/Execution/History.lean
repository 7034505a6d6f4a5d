import Runbook.Proofs.Execution.Action
import Runbook.Proofs.Execution.Evaluation

/-! What a stage can do, as derivations: an attempt at a command, the block of a command with its
branch, and the blocks of a stage one after the other.

The runner of a stage yields nothing else (`stageHistory`). A history has the dialogue along
which it came about, so one induction over histories speaks of records and of requests alike.
-/

set_option autoImplicit false

namespace Runbook.Execution

open StageRunner (begin_ chooseArm commandFailure branchFailure)

/-- The look at the cancellation before a command, where it finds nothing. -/
def polls (cancellable : Bool) : List Exchange :=
  if cancellable then [.polled false] else []

def freshStep (stage : Stage) (index : Nat) (branch : Option Step.Branch) (command : Command)
    (startedAt : Time.Instant) : Step :=
  { stage, commandIndex := index, branch, description := command.description,
    template := command.template, startedAt }

inductive Attempt (settings : Settings) (command : Command) (fresh : Step)
    (context : Template.Context) : List Exchange → Step → Template.Context → Prop
  | unresolved {fault : Template.Fault} {now : Time.Instant} :
      context.resolve command.template = .error fault →
      Attempt settings command fresh context [.read now]
        ((fresh.fail .variableResolution (unresolvedMessage fault)).finish now) context
  | answered {text : String} {reply : Device.Reply} {now : Time.Instant} :
      context.resolve command.template = .ok text →
      Attempt settings command fresh context
        [.sent text (settings.timeoutFor command) reply, .read now]
        ((receive command { fresh with commandSent := text } context reply).1.finish now)
        (receive command { fresh with commandSent := text } context reply).2

/-- A command whose step has come onto the record, with the arm that it has earned. -/
inductive Recorded (settings : Settings) (stage : Stage) (index : Nat)
    (branch : Option Step.Branch) (command : Command) (before : Progress Run) :
    List Exchange → Step → Option (Condition × Arm) → Progress Run → Prop
  | mk {startedAt : Time.Instant} {dialogue : List Exchange} {attempted step : Step}
      {context : Template.Context} {chosen : Option (Condition × Arm)} :
      Attempt settings command (freshStep stage index branch command startedAt) before.context
        dialogue attempted context →
      chooseArm command attempted context = (step, chosen) →
      before.collected.isTerminal = false →
      Recorded settings stage index branch command before
        (.read startedAt :: (dialogue ++ [.stored (before.collected.append [step]) (.ok ())]))
        step chosen ⟨context, before.collected.append [step]⟩

inductive BranchHistory (settings : Settings) (cancellable : Bool) (parent : Step) (arm : Arm) :
    Nat → List BranchCommand → Progress Run → List Exchange → BranchOutcome → Progress Run → Prop
  | completed {index : Nat} {progress : Progress Run} :
      BranchHistory settings cancellable parent arm index [] progress [] .completed progress
  | cancelled {index : Nat} {branch : BranchCommand} {rest : List BranchCommand}
      {progress : Progress Run} :
      cancellable = true →
      BranchHistory settings cancellable parent arm index (branch :: rest) progress
        [.polled true] .cancelled progress
  | failed {index : Nat} {branch : BranchCommand} {rest : List BranchCommand}
      {progress after : Progress Run} {dialogue : List Exchange} {step : Step}
      {chosen : Option (Condition × Arm)} {error : Step.Error} :
      Recorded settings parent.stage parent.commandIndex (some ⟨parent.commandIndex, arm, index⟩)
        branch.toCommand progress dialogue step chosen after →
      step.error = some error →
      BranchHistory settings cancellable parent arm index (branch :: rest) progress
        (polls cancellable ++ dialogue) (.failed error) after
  | next {index : Nat} {branch : BranchCommand} {rest : List BranchCommand}
      {progress middle after : Progress Run} {dialogue later : List Exchange} {step : Step}
      {chosen : Option (Condition × Arm)} {outcome : BranchOutcome} :
      Recorded settings parent.stage parent.commandIndex (some ⟨parent.commandIndex, arm, index⟩)
        branch.toCommand progress dialogue step chosen middle →
      step.error = none →
      BranchHistory settings cancellable parent arm (index + 1) rest middle later outcome after →
      BranchHistory settings cancellable parent arm index (branch :: rest) progress
        (polls cancellable ++ (dialogue ++ later)) outcome after

/-- What the end of a branch makes of its stage: nothing where the branch was completed. -/
def BranchOutcome.toStage? (stage : Stage) (index : Nat) (arm : Arm) :
    BranchOutcome → Option StageOutcome
  | .completed => none
  | .cancelled => some .cancelled
  | .failed error => some (.failed (branchFailure stage index arm error))

/-- One command of a stage with its branch. Where it brings the stage to an end, the end is the
outcome. -/
inductive BlockHistory (settings : Settings) (cancellable : Bool) (stage : Stage) (index : Nat)
    (command : Command) (progress : Progress Run) :
    List Exchange → Option StageOutcome → Progress Run → Prop
  | cancelled : cancellable = true →
      BlockHistory settings cancellable stage index command progress [.polled true]
        (some .cancelled) progress
  | failed {after : Progress Run} {dialogue : List Exchange} {step : Step}
      {chosen : Option (Condition × Arm)} {error : Step.Error} :
      Recorded settings stage index none command progress dialogue step chosen after →
      step.error = some error →
      BlockHistory settings cancellable stage index command progress (polls cancellable ++ dialogue)
        (some (.failed (commandFailure stage index error))) after
  | plain {after : Progress Run} {dialogue : List Exchange} {step : Step} :
      Recorded settings stage index none command progress dialogue step none after →
      step.error = none →
      BlockHistory settings cancellable stage index command progress (polls cancellable ++ dialogue)
        none after
  | branched {middle after : Progress Run} {dialogue later : List Exchange} {step : Step}
      {condition : Condition} {arm : Arm} {outcome : BranchOutcome} :
      Recorded settings stage index none command progress dialogue step
        (some (condition, arm)) middle →
      step.error = none →
      BranchHistory settings cancellable step arm 0 (condition.commands arm) middle later outcome
        after →
      BlockHistory settings cancellable stage index command progress
        (polls cancellable ++ (dialogue ++ later)) (outcome.toStage? stage index arm) after

inductive StageHistory (settings : Settings) (cancellable : Bool) (stage : Stage) :
    Nat → List Command → Progress Run → List Exchange → StageOutcome → Progress Run → Prop
  | passed {index : Nat} {progress : Progress Run} :
      StageHistory settings cancellable stage index [] progress [] .passed progress
  | ended {index : Nat} {command : Command} {rest : List Command} {progress after : Progress Run}
      {dialogue : List Exchange} {outcome : StageOutcome} :
      BlockHistory settings cancellable stage index command progress dialogue (some outcome) after →
      StageHistory settings cancellable stage index (command :: rest) progress dialogue outcome
        after
  | next {index : Nat} {command : Command} {rest : List Command}
      {progress middle after : Progress Run} {dialogue later : List Exchange}
      {outcome : StageOutcome} :
      BlockHistory settings cancellable stage index command progress dialogue none middle →
      StageHistory settings cancellable stage (index + 1) rest middle later outcome after →
      StageHistory settings cancellable stage index (command :: rest) progress (dialogue ++ later)
        outcome after

section
variable {settings : Settings} {cancellable : Bool} {stage : Stage} {index : Nat}
  {dialogue : List Exchange}

theorem yields_runner_isCancelled {cancelled : Bool}
    (given : Yields (runner settings cancellable).isCancelled dialogue cancelled) :
    cancelled = true ∧ cancellable = true ∧ dialogue = [.polled true] ∨
      cancelled = false ∧ dialogue = polls cancellable := by
  cases cancellable with
  | true =>
    have polled := yields_isCancelled_iff.1 given
    cases cancelled with
    | true => exact .inl ⟨rfl, rfl, polled⟩
    | false => exact .inr ⟨rfl, polled⟩
  | false =>
    obtain ⟨silent, rfl⟩ := yields_pure_iff.1 given
    exact .inr ⟨rfl, silent⟩

theorem yields_begin {branch : Option Step.Branch} (command : Command) {step : Step}
    (given : Yields (begin_ stage index branch command.description command.template) dialogue
      step) :
    ∃ startedAt, step = freshStep stage index branch command startedAt ∧
      dialogue = [.read startedAt] := by
  obtain ⟨_, _, startedAt, rfl, read, returned⟩ := given.of_bind
  obtain ⟨rfl, rfl⟩ := yields_pure_iff.1 returned
  rw [yields_now_iff.1 read]
  exact ⟨startedAt, rfl, rfl⟩

theorem attempt {command : Command} {fresh step : Step} {context after : Template.Context}
    (given : (evaluate settings command fresh context).Gives dialogue (step, after)) :
    Attempt settings command fresh context dialogue step after := by
  cases outcome : context.resolve command.template with
  | error fault =>
    rw [evaluate_of_unresolved outcome, Procedure.gives_clock_iff] at given
    obtain ⟨now, _, rfl, tail⟩ := given
    obtain ⟨rfl, same⟩ := Procedure.gives_done_iff.1 tail
    cases same
    exact .unresolved outcome
  | ok text =>
    rw [evaluate_of_resolved outcome, Procedure.gives_send_iff] at given
    obtain ⟨reply, _, rfl, replied⟩ := given
    obtain ⟨now, _, rfl, tail⟩ := Procedure.gives_clock_iff.1 replied
    obtain ⟨rfl, same⟩ := Procedure.gives_done_iff.1 tail
    cases same
    exact .answered outcome

theorem chooseArm_toCommand (branch : BranchCommand) (step : Step) (context : Template.Context) :
    chooseArm branch.toCommand step context = (step, none) := rfl

theorem regroup (startedAt : Time.Instant) (first second rest : List Exchange) :
    [Exchange.read startedAt] ++ (first ++ (second ++ rest)) =
      .read startedAt :: (first ++ second) ++ rest := by
  simp

theorem branchHistory {parent : Step} {arm : Arm} {branches : List BranchCommand}
    {progress after : Progress Run} {outcome : BranchOutcome}
    (given : Yields ((runner settings cancellable).runBranch parent arm index branches progress)
      dialogue (outcome, after)) :
    BranchHistory settings cancellable parent arm index branches progress dialogue outcome
      after := by
  induction branches generalizing index progress dialogue with
  | nil =>
    obtain ⟨rfl, same⟩ := yields_pure_iff.1 given
    cases same
    exact .completed
  | cons branch rest ih =>
    rw [StageRunner.runBranch] at given
    obtain ⟨_, _, cancelled, rfl, looked, goneOn⟩ := given.of_bind
    rcases yields_runner_isCancelled looked with ⟨rfl, allowed, rfl⟩ | ⟨rfl, rfl⟩
    · obtain ⟨rfl, same⟩ := yields_pure_iff.1 goneOn
      cases same
      exact .cancelled allowed
    · -- Not cancelled, so one request of the runner comes after the other.
      obtain ⟨_, _, fresh, rfl, begun, evaluated⟩ := goneOn.of_bind
      obtain ⟨startedAt, rfl, rfl⟩ := yields_begin branch.toCommand begun
      obtain ⟨_, _, ⟨step, context⟩, rfl, attempted, sunk⟩ := evaluated.of_bind
      obtain ⟨_, _, collected, rfl, stored, continued⟩ := sunk.of_bind
      obtain ⟨unfinished, rfl, rfl⟩ := yields_recordStep stored
      have recorded := Recorded.mk (attempt (yields_lift_iff.1 attempted))
        (chooseArm_toCommand branch step context) unfinished
      rw [regroup]
      cases failure : step.error with
      | some error =>
        simp only [failure] at continued
        obtain ⟨rfl, same⟩ := yields_pure_iff.1 continued
        cases same
        rw [List.append_nil]
        exact .failed recorded failure
      | none =>
        simp only [failure] at continued
        exact .next recorded failure (ih continued)

theorem blockHistory {command : Command} {rest : List Command} {progress after : Progress Run}
    {outcome : StageOutcome}
    (given : Yields ((runner settings cancellable).runFrom stage index (command :: rest) progress)
      dialogue (outcome, after)) :
    BlockHistory settings cancellable stage index command progress dialogue (some outcome) after ∨
      ∃ first later middle, dialogue = first ++ later ∧
        BlockHistory settings cancellable stage index command progress first none middle ∧
        Yields ((runner settings cancellable).runFrom stage (index + 1) rest middle) later
          (outcome, after) := by
  rw [StageRunner.runFrom] at given
  obtain ⟨_, _, cancelled, rfl, looked, goneOn⟩ := given.of_bind
  rcases yields_runner_isCancelled looked with ⟨rfl, allowed, rfl⟩ | ⟨rfl, rfl⟩
  · obtain ⟨rfl, same⟩ := yields_pure_iff.1 goneOn
    cases same
    exact .inl (.cancelled allowed)
  · obtain ⟨_, _, fresh, rfl, begun, evaluated⟩ := goneOn.of_bind
    obtain ⟨startedAt, rfl, rfl⟩ := yields_begin command begun
    obtain ⟨_, _, ⟨attempted, context⟩, rfl, evaluation, sunk⟩ := evaluated.of_bind
    -- The choice gets a name, for it is the same in the record and in what follows.
    obtain ⟨⟨step, chosen⟩, choice⟩ : ∃ choice, chooseArm command attempted context = choice :=
      ⟨_, rfl⟩
    simp only [choice] at sunk
    obtain ⟨_, _, collected, rfl, stored, continued⟩ := sunk.of_bind
    obtain ⟨unfinished, rfl, rfl⟩ := yields_recordStep stored
    have recorded := Recorded.mk (attempt (yields_lift_iff.1 evaluation)) choice unfinished
    rw [regroup]
    cases failure : step.error with
    | some error =>
      simp only [failure] at continued
      obtain ⟨rfl, same⟩ := yields_pure_iff.1 continued
      cases same
      rw [List.append_nil]
      exact .inl (.failed recorded failure)
    | none =>
      cases chosen with
      | none =>
        simp only [failure] at continued
        exact .inr ⟨_, _, _, (List.append_assoc _ _ _).symm, .plain recorded failure, continued⟩
      | some chosen =>
        obtain ⟨condition, arm⟩ := chosen
        simp only [failure] at continued
        obtain ⟨branchDialogue, _, ⟨branchOutcome, middle⟩, rfl, branched, left⟩ :=
          continued.of_bind
        have block := BlockHistory.branched recorded failure (branchHistory branched)
        -- A stage goes on after a branch only where the branch was completed.
        cases branchOutcome with
        | completed =>
          exact .inr ⟨_, _, _, by simp only [List.append_assoc], block, left⟩
        | cancelled =>
          obtain ⟨rfl, same⟩ := yields_pure_iff.1 left
          cases same
          rw [List.append_nil]
          exact .inl block
        | failed error =>
          obtain ⟨rfl, same⟩ := yields_pure_iff.1 left
          cases same
          rw [List.append_nil]
          exact .inl block

theorem stageHistory {commands : List Command} {progress after : Progress Run}
    {outcome : StageOutcome}
    (given : Yields ((runner settings cancellable).runFrom stage index commands progress)
      dialogue (outcome, after)) :
    StageHistory settings cancellable stage index commands progress dialogue outcome after := by
  induction commands generalizing index progress dialogue with
  | nil =>
    obtain ⟨rfl, same⟩ := yields_pure_iff.1 given
    cases same
    exact .passed
  | cons command rest ih =>
    rcases blockHistory given with block | ⟨first, later, middle, rfl, block, goneOn⟩
    · exact .ended block
    · exact .next block (ih goneOn)

/-! ### The step that has come onto the record -/

theorem Attempt.framed {command : Command} {fresh step : Step}
    {context after : Template.Context}
    (attempt : Attempt settings command fresh context dialogue step after)
    (nothing : fresh.extractedValue = none) :
    step.heading = fresh.heading ∧
      after = { context with bound := command.note step context.bound } := by
  cases attempt with
  | @unresolved fault now absent =>
    have framed : Framed command fresh context
        ((fresh.fail .variableResolution (unresolvedMessage fault)).finish now) context :=
      framed_of_nothing rfl rfl nothing
    exact ⟨framed.heading, framed.context⟩
  | @answered text reply now resolved =>
    have framed := framed_receive command { fresh with commandSent := text } context reply nothing
    exact ⟨framed.heading, framed.context⟩

section
variable {branch : Option Step.Branch} {command : Command} {before after : Progress Run}
  {step : Step} {chosen : Option (Condition × Arm)}

theorem Recorded.collected
    (recorded : Recorded settings stage index branch command before dialogue step chosen after) :
    after.collected = before.collected.append [step] := by
  cases recorded
  rfl

theorem Recorded.framed
    (recorded : Recorded settings stage index branch command before dialogue step chosen after) :
    step.heading = command.heading stage index branch ∧
      after.context = { before.context with
        bound := command.note step before.context.bound } := by
  cases recorded with
  | mk attempt choice unfinished =>
    obtain ⟨heading, context⟩ := attempt.framed rfl
    rw [chooseArm_step choice]
    exact ⟨heading, context⟩

theorem Recorded.place
    (recorded : Recorded settings stage index branch command before dialogue step chosen after) :
    step.stage = stage ∧ step.commandIndex = index ∧ step.branch = branch :=
  Step.place_of_heading recorded.framed.1

theorem Recorded.selected {condition : Condition} {arm : Arm}
    (recorded : Recorded settings stage index branch command before dialogue step
      (some (condition, arm)) after) :
    command.condition = some condition ∧ condition.select step after.context = .ok arm := by
  cases recorded with
  | mk attempt choice unfinished => exact chooseArm_some choice

theorem Recorded.plain
    (recorded : Recorded settings stage index branch command before dialogue step none after)
    (success : step.error = none) : command.condition = none := by
  cases recorded with
  | mk attempt choice unfinished => exact chooseArm_none choice success

end

/-! ### Only what can be cancelled is cancelled, and where a poll said so -/

theorem BranchHistory.polled_of_cancelled {parent : Step} {arm : Arm}
    {branches : List BranchCommand} {progress after : Progress Run} {outcome : BranchOutcome}
    (history : BranchHistory settings cancellable parent arm index branches progress dialogue
      outcome after) (stopped : outcome = .cancelled) :
    cancellable = true ∧ .polled true ∈ dialogue := by
  induction history with
  | completed => cases stopped
  | cancelled allowed => exact ⟨allowed, List.mem_cons_self⟩
  | failed recorded failure => cases stopped
  | next recorded success rest ih =>
    obtain ⟨allowed, polled⟩ := ih stopped
    exact ⟨allowed, List.mem_append_right _ (List.mem_append_right _ polled)⟩

theorem BlockHistory.polled_of_cancelled {command : Command} {progress after : Progress Run}
    {ending : Option StageOutcome}
    (history : BlockHistory settings cancellable stage index command progress dialogue ending
      after) (stopped : ending = some .cancelled) :
    cancellable = true ∧ .polled true ∈ dialogue := by
  cases history with
  | cancelled allowed => exact ⟨allowed, List.mem_cons_self⟩
  | failed recorded failure => cases stopped
  | plain recorded success => cases stopped
  | @branched _ _ _ _ _ _ _ outcome recorded success branch =>
    cases outcome with
    | completed => cases stopped
    | cancelled =>
      obtain ⟨allowed, polled⟩ := branch.polled_of_cancelled rfl
      exact ⟨allowed, List.mem_append_right _ (List.mem_append_right _ polled)⟩
    | failed error => cases stopped

theorem StageHistory.polled_of_cancelled {commands : List Command}
    {progress after : Progress Run} {outcome : StageOutcome}
    (history : StageHistory settings cancellable stage index commands progress dialogue outcome
      after) (stopped : outcome = .cancelled) :
    cancellable = true ∧ .polled true ∈ dialogue := by
  induction history with
  | passed => cases stopped
  | ended block => exact block.polled_of_cancelled (congrArg some stopped)
  | next block rest ih =>
    obtain ⟨allowed, polled⟩ := ih stopped
    exact ⟨allowed, List.mem_append_right _ polled⟩

end

end Runbook.Execution
