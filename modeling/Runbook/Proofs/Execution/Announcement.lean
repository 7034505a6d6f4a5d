import Runbook.Proofs.Execution.Transcript
import Runbook.Proofs.Execution.Walk

/-! What a run announces: its start and its end, each at most once, and each right after the store has
kept the record that it is about.
-/

set_option autoImplicit false

namespace Runbook.Execution

open Notification (Event EventKind)

namespace Exchange

def announcement? : Exchange → Option (EventKind × Run)
  | .announced kind run => some (kind, run)
  | _ => none

/-- The record that an exchange leaves in the store. -/
def kept? : Exchange → Option Run
  | .stored run (.ok ()) => some run
  | _ => none

end Exchange

/-- What has been announced, with the record of the moment. -/
def announcementsOf (dialogue : List Exchange) : List (EventKind × Run) :=
  dialogue.filterMap Exchange.announcement?

def keptOf (dialogue : List Exchange) : List Run :=
  dialogue.filterMap Exchange.kept?

def ending (status : Run.Status) : EventKind :=
  if status = .completed then .completed else .failed

theorem terminal?_of_isTerminal {status : Run.Status} (terminal : status.isTerminal = true) :
    EventKind.terminal? status = some (ending status) := by
  cases status with
  | pending => cases terminal
  | running => cases terminal
  | rollingBack => cases terminal
  | completed => rfl
  | failed => rfl
  | cancelled => rfl
  | rolledBack => rfl

theorem ending_ne_started (status : Run.Status) : ending status ≠ .started := by
  cases status <;> decide

section
variable {first rest : List Exchange} {run : Run}

theorem announcementsOf_append :
    announcementsOf (first ++ rest) = announcementsOf first ++ announcementsOf rest :=
  List.filterMap_append

theorem keptOf_append : keptOf (first ++ rest) = keptOf first ++ keptOf rest :=
  List.filterMap_append

theorem closing_of_isTerminal (terminal : run.isTerminal = true) :
    closing run = [.stored run (.ok ()), .announced (ending run.status) run] := by
  rw [closing, terminal?_of_isTerminal terminal]
  rfl

end

/-! ### Between the start and the end -/

/-- Nothing is announced, and no record that the store keeps has ended. -/
structure Underway (dialogue : List Exchange) : Prop where
  unannounced : announcementsOf dialogue = []
  unfinished : ∀ run ∈ keptOf dialogue, run.isTerminal = false

section
variable {first rest : List Exchange} {record after : Run} {step : Step} {cancellable : Bool}

theorem underway_nil : Underway [] :=
  ⟨rfl, fun _ member => absurd member List.not_mem_nil⟩

theorem underway_polled (cancelled : Bool) : Underway [.polled cancelled] :=
  ⟨rfl, fun _ member => absurd member List.not_mem_nil⟩

theorem underway_read (now : Time.Instant) : Underway [.read now] :=
  ⟨rfl, fun _ member => absurd member List.not_mem_nil⟩

theorem underway_polls (cancellable : Bool) : Underway (polls cancellable) := by
  cases cancellable with
  | true => exact underway_polled false
  | false => exact underway_nil

theorem underway_stored {run : Run} (unfinished : run.isTerminal = false) :
    Underway [.stored run (.ok ())] :=
  ⟨rfl, List.forall_mem_singleton.2 unfinished⟩

theorem Underway.append (before : Underway first) (later : Underway rest) :
    Underway (first ++ rest) where
  unannounced := by rw [announcementsOf_append, before.unannounced, later.unannounced]; rfl
  unfinished := by
    rw [keptOf_append]
    exact List.forall_mem_append.2 ⟨before.unfinished, later.unfinished⟩

theorem Underway.of_isPrefix (whole : Underway rest) (begins : first <+: rest) : Underway first where
  unannounced := List.prefix_nil.1 (whole.unannounced ▸ begins.filterMap _)
  unfinished run member := whole.unfinished run ((begins.filterMap _).subset member)

theorem Carried.underway (carried : Carried record step first)
    (unfinished : record.isTerminal = false) : Underway first := by
  have kept : ∀ run ∈ [record.append [step]], run.isTerminal = false :=
    List.forall_mem_singleton.2 unfinished
  cases carried with
  | unsent => exact ⟨rfl, kept⟩
  | sent => exact ⟨rfl, kept⟩

theorem Walk.closes (walk : Walk cancellable record first after)
    (unfinished : record.isTerminal = false) :
    after.isTerminal = true ∧ ∃ body, first = body ++ closing after ∧ Underway body := by
  induction walk with
  | @carried cancellable _ _ _ item _ carried _ _ _ ih =>
    obtain ⟨terminal, body, rfl, underway⟩ := ih unfinished
    refine ⟨terminal, polls cancellable ++ (item ++ body), by simp only [List.append_assoc], ?_⟩
    exact (underway_polls cancellable).append ((carried.underway unfinished).append underway)
  | @failed record _ step item _ failure carried _ _ _ ih =>
    obtain ⟨terminal, body, rfl, underway⟩ := ih rfl
    -- The record is rolling back from here on, and so has not ended either.
    have rolling : Underway [.stored (rollingBack (record.append [step]) failure) (.ok ())] :=
      underway_stored rfl
    refine ⟨terminal, [.polled false] ++ (item ++ (_ ++ body)), ?_, (underway_polled false).append
      ((carried.underway unfinished).append (rolling.append underway))⟩
    simp only [List.append_assoc, List.cons_append, List.nil_append]
  | @entered record _ stage _ _ _ ih =>
    obtain ⟨terminal, body, rfl, underway⟩ := ih unfinished
    have entering : Underway [.stored { record with currentStage := some stage } (.ok ())] :=
      underway_stored unfinished
    exact ⟨terminal, _, rfl, (underway_polled false).append (entering.append underway)⟩
  | cancelled => exact ⟨rfl, _, rfl, (underway_polled true).append (underway_read _)⟩
  | completed => exact ⟨rfl, _, rfl, underway_read _⟩
  | rolledBack => exact ⟨rfl, _, rfl, underway_read _⟩
  | nothingToDo => exact ⟨rfl, _, rfl, underway_read _⟩
  | @rollbackFailed _ _ item _ now carried =>
    refine ⟨rfl, item ++ [.read now], ?_, (carried.underway unfinished).append (underway_read now)⟩
    simp only [List.append_assoc, List.cons_append, List.nil_append]

end

/-! ### Whole runs, and runs that are cut short -/

/-- The announcements of a run that ends with a status, by what the store has kept. -/
structure Heralded (cancelled : Bool) (status : Run.Status) (dialogue : List Exchange) : Prop where
  expected : (announcementsOf dialogue).map Prod.fst <+:
    if cancelled then [ending status] else [.started, ending status]
  started : .started ∈ (announcementsOf dialogue).map Prod.fst ↔
    ∃ record ∈ keptOf dialogue, record.status = .running
  ended : ending status ∈ (announcementsOf dialogue).map Prod.fst ↔
    ∃ record ∈ keptOf dialogue, record.isTerminal = true
  last : ∀ record ∈ keptOf dialogue, record.isTerminal = true → record.status = status
  about : ∀ kind record, (kind, record) ∈ announcementsOf dialogue →
    record.status = if kind = .started then .running else status

section
variable {settings : Settings} {workflow : Workflow} {run after : Run}
  {dialogue whole part body : List Exchange} {status : Run.Status} {cancelled : Bool}

theorem heralded_of_nothing (silent : announcementsOf dialogue = []) (nothing : keptOf dialogue = []) :
    Heralded cancelled status dialogue := by
  constructor <;> simp [silent, nothing]

theorem heralded_of_start {begun : Run} (running : begun.status = .running)
    (announced : announcementsOf dialogue = [(.started, begun)])
    (kept : keptOf dialogue = begun :: keptOf part) (underway : Underway part) :
    Heralded false status dialogue := by
  have unfinished : ∀ record ∈ keptOf dialogue, record.isTerminal = false := by
    rw [kept]
    exact List.forall_mem_cons.2 ⟨by rw [Run.isTerminal, running]; rfl, underway.unfinished⟩
  constructor
  case expected => simp [announced]
  case started => simp [announced, kept, running]
  case ended => simpa [announced, ending_ne_started] using unfinished
  case last =>
    intro record member terminal
    rw [unfinished record member] at terminal
    cases terminal
  case about => simp [announced, running]

theorem heralded_of_cancelled (terminal : after.isTerminal = true)
    (announced : announcementsOf dialogue = [(ending after.status, after)])
    (kept : keptOf dialogue = [after]) : Heralded true after.status dialogue := by
  have notRunning : after.status ≠ .running := by
    intro running
    rw [Run.isTerminal, running] at terminal
    cases terminal
  constructor
  case expected => simp [announced]
  case started => simp [announced, kept, notRunning, (ending_ne_started _).symm]
  case ended => simp [announced, kept, terminal]
  case last => simp [kept]
  case about => simp [announced, ending_ne_started]

theorem heralded_of_end {begun : Run} (running : begun.status = .running)
    (terminal : after.isTerminal = true)
    (announced : announcementsOf dialogue = [(.started, begun), (ending after.status, after)])
    (kept : keptOf dialogue = begun :: (keptOf body ++ [after])) (underway : Underway body) :
    Heralded false after.status dialogue := by
  have unfinished : begun.isTerminal = false := by rw [Run.isTerminal, running]; rfl
  constructor
  case expected => simp [announced]
  case started => simp [announced, kept, running]
  case ended => simp [announced, kept, terminal]
  case last =>
    -- Of the records that were kept only the last one has ended.
    intro record member ended
    rw [kept, List.mem_cons, List.mem_append, List.mem_singleton] at member
    rcases member with rfl | early | rfl
    · rw [unfinished] at ended
      cases ended
    · rw [underway.unfinished record early] at ended
      cases ended
    · rfl
  case about =>
    intro kind record member
    rw [announced, List.mem_cons, List.mem_singleton, Prod.mk.injEq, Prod.mk.injEq] at member
    rcases member with ⟨rfl, rfl⟩ | ⟨rfl, rfl⟩
    · rw [if_pos rfl, running]
    · rw [if_neg (ending_ne_started _)]

theorem Cut.eq_or (cut : Cut dialogue whole) : dialogue = whole ∨
    ∃ first record cause rest, dialogue = first ++ [.stored record (.error cause)] ∧
      whole = first ++ .stored record (.ok ()) :: rest := by
  induction cut with
  | whole => exact .inl rfl
  | refused => exact .inr ⟨[], _, _, _, rfl, rfl⟩
  | @next exchange _ _ _ ih =>
    rcases ih with rfl | ⟨first, record, cause, rest, rfl, rfl⟩
    · exact .inl rfl
    · exact .inr ⟨exchange :: first, record, cause, rest, rfl, rfl⟩

theorem exists_append_of_stored (opening : List Exchange) {more first rest : List Exchange} {record : Run}
    (nothing : keptOf opening = [])
    (split : opening ++ more = first ++ .stored record (.ok ()) :: rest) :
    ∃ middle, first = opening ++ middle ∧ more = middle ++ .stored record (.ok ()) :: rest := by
  rcases List.append_eq_append_iff.1 split with ⟨middle, rfl, tail⟩ | ⟨middle, rfl, tail⟩
  · exact ⟨middle, rfl, tail⟩
  · cases middle with
    | nil => exact ⟨[], by simp, tail.symm⟩
    | cons exchange middle =>
      obtain ⟨rfl, -⟩ := List.cons.inj tail
      rw [keptOf_append] at nothing
      cases (List.append_eq_nil_iff.1 nothing).2

theorem isPrefix_of_stored {record : Run} {rest : List Exchange} (terminal : after.isTerminal = true)
    (split : body ++ closing after = part ++ .stored record (.ok ()) :: rest) : part <+: body := by
  rw [closing_of_isTerminal terminal] at split
  rcases List.append_eq_append_iff.1 split with ⟨middle, rfl, tail⟩ | ⟨middle, rfl, -⟩
  · cases middle with
    | nil => simp
    | cons exchange middle => simp [List.cons_eq_append_iff] at tail
  · exact List.prefix_append part middle

theorem Underway.closing (underway : Underway body) (terminal : after.isTerminal = true) :
    announcementsOf (body ++ closing after) = [(ending after.status, after)] ∧
      keptOf (body ++ closing after) = keptOf body ++ [after] := by
  rw [announcementsOf_append, keptOf_append, underway.unannounced, closing_of_isTerminal terminal]
  exact ⟨rfl, rfl⟩

theorem Underway.refused (underway : Underway part) (record : Run) (cause : Store.Error) :
    announcementsOf (part ++ [.stored record (.error cause)]) = [] ∧
      keptOf (part ++ [.stored record (.error cause)]) = keptOf part := by
  rw [announcementsOf_append, keptOf_append, underway.unannounced]
  exact ⟨rfl, List.append_nil _⟩

/-- The announcements of a run agree with what the store has kept of it, wherever the run was cut
short. -/
theorem Cut.heralded (cut : Cut dialogue whole) (course : Course settings workflow run whole after) :
    after.isTerminal = true ∧ ∃ cancelled rest, dialogue = .polled cancelled :: rest ∧
      Heralded cancelled after.status dialogue := by
  rcases course.walk with ⟨now, rfl, rfl⟩ | ⟨now, rest, rfl, walk⟩
  · have terminal : (run.closed .cancelled now).isTerminal = true := rfl
    rw [closing_of_isTerminal terminal] at cut
    refine ⟨terminal, true, ?_⟩
    rcases cut.eq_or with rfl | ⟨first, record, cause, others, rfl, split⟩
    · exact ⟨_, rfl, heralded_of_cancelled terminal rfl rfl⟩
    · obtain ⟨middle, rfl, last⟩ :=
        exists_append_of_stored [.polled true, .read now] rfl split
      cases middle with
      | nil => exact ⟨_, rfl, heralded_of_nothing rfl rfl⟩
      | cons exchange middle => simp [List.cons_eq_append_iff] at last
  · have running : (begun run now).status = .running := rfl
    obtain ⟨terminal, body, rfl, underway⟩ := walk.closes rfl
    refine ⟨terminal, false, ?_⟩
    rcases cut.eq_or with rfl | ⟨first, record, cause, others, rfl, split⟩
    · obtain ⟨announced, kept⟩ := underway.closing terminal
      exact ⟨_, rfl, heralded_of_end running terminal
        (congrArg ((EventKind.started, begun run now) :: ·) announced)
        (congrArg (begun run now :: ·) kept) underway⟩
    · -- Cut short before the start, or between the start and the end.
      obtain ⟨middle, rfl, goesOn⟩ :=
        exists_append_of_stored [.polled false, .read now] rfl split
      cases middle with
      | nil => exact ⟨_, rfl, heralded_of_nothing rfl rfl⟩
      | cons exchange middle =>
        obtain ⟨rfl, past⟩ := List.cons.inj goesOn
        obtain ⟨part, rfl, stops⟩ :=
          exists_append_of_stored [.announced .started (begun run now)] rfl past
        have begins := underway.of_isPrefix (isPrefix_of_stored terminal stops)
        obtain ⟨announced, kept⟩ := begins.refused record cause
        exact ⟨_, rfl, heralded_of_start running
          (congrArg ((EventKind.started, begun run now) :: ·) announced)
          (congrArg (begun run now :: ·) kept) begins⟩

theorem Course.kept (course : Course settings workflow run dialogue after) :
    after ∈ keptOf dialogue ∧ after.isTerminal = true := by
  rcases course.walk with ⟨now, rfl, rfl⟩ | ⟨now, rest, rfl, walk⟩
  · exact ⟨List.mem_cons_self, rfl⟩
  · obtain ⟨terminal, body, rfl, underway⟩ := walk.closes rfl
    have last : after ∈ keptOf (body ++ closing after) :=
      (underway.closing terminal).2 ▸ List.mem_concat_self
    exact ⟨List.mem_cons_of_mem _ last, terminal⟩

end

/-! ### The record that an announcement is about -/

section
variable {workflow : Workflow} {parameters : Bindings} {run after record : Run}
  {dialogue whole first rest : List Exchange} {kind : EventKind}

theorem Leg.unannounced {change : Change} (leg : Leg workflow parameters run change dialogue) :
    announcementsOf dialogue = [] := by
  cases leg with
  | start => rfl
  | enter => rfl
  | @record cancellable _ _ _ _ _ passed => cases cancellable <;> cases passed <;> rfl
  | rollBack => rfl
  | finish ends => cases ends <;> rfl

/-- Where a record is announced, it is the one that the changes so far have led to. -/
theorem Proceeds.announced (path : Proceeds workflow parameters run dialogue after)
    (split : dialogue = first ++ .announced kind record :: rest) :
    Proceeds workflow parameters run first record := by
  induction path generalizing first with
  | refl => simp at split
  | @change run after change before others leg path ih =>
    rcases List.append_eq_append_iff.1 split with ⟨middle, rfl, tail⟩ | ⟨middle, rfl, tail⟩
    · cases middle with
      | nil => cases tail
      | cons exchange middle =>
        obtain ⟨rfl, same⟩ := List.cons.inj tail
        exact .change leg (ih same)
    · -- Nothing is announced on the way to an update.
      cases middle with
      | nil => cases tail
      | cons exchange middle =>
        obtain ⟨rfl, -⟩ := List.cons.inj tail
        have silent := leg.unannounced
        rw [announcementsOf_append] at silent
        cases (List.append_eq_nil_iff.1 silent).2
  | announce path ih =>
    cases first with
    | nil =>
      obtain ⟨same, -⟩ := List.cons.inj split
      cases same
      exact .refl
    | cons exchange first =>
      obtain ⟨rfl, same⟩ := List.cons.inj split
      exact .announce (ih same)

end

section
variable {σ : Type} {world : World σ} (s : σ) (settings : Settings) (workflow : Workflow) (id : RunId)
  (workflowId : WorkflowId) (deviceId : DeviceId) (parameters : Bindings)
  (createdAt : Time.Instant)

/-- A run announces its start if the store has kept the running record, and its end if the store has
kept the record that has ended; nothing else, and nothing twice. Each event says what the record in the
store says at that moment. -/
theorem announcements_follow_store {held : σ → Run} (holds : world.Shows held (hold id))
    (created : held s = .new id workflowId deviceId parameters createdAt) :
    ∃ status dialogue kinds, status.isTerminal = true ∧
      dialogue = (execute settings workflow
        (.new id workflowId deviceId parameters createdAt)).run.dialogue world s ∧
      kinds = (announcementsOf dialogue).map Prod.fst ∧
      (∀ run, ((execute settings workflow
        (.new id workflowId deviceId parameters createdAt)).run.runIn world s).1 = .ok run →
          run.status = status) ∧
      (∀ record ∈ keptOf dialogue, record.isTerminal = true → record.status = status) ∧
      ((world.poll s).1 = false →
        kinds <+: [.started, if status = .completed then .completed else .failed]) ∧
      ((world.poll s).1 = true → kinds <+: [if status = .completed then .completed else .failed]) ∧
      (.started ∈ kinds ↔ ∃ record ∈ keptOf dialogue, record.status = .running) ∧
      ((if status = .completed then .completed else .failed) ∈ kinds ↔
        ∃ record ∈ keptOf dialogue, record.isTerminal = true) ∧
      ∀ number kind run next t,
        (execute settings workflow
          (.new id workflowId deviceId parameters createdAt)).run.after world number s =
            (.announce kind run next, t) →
        (held t).status = (if kind = .started then .running else status) ∧
        ∀ eventId now event, event = Event.ofRun eventId kind run now →
          event.runId = (held t).id ∧ event.workflowId = (held t).workflowId ∧
          event.deviceId = (held t).deviceId ∧ event.status = (held t).status ∧
          event.currentStage = (held t).currentStage ∧
          event.errorMessage = (held t).errorMessage? ∧ event.steps = (held t).steps := by
  have pending : (Run.new id workflowId deviceId parameters createdAt).status = .pending := rfl
  have given := Procedure.gives_dialogue world
    (execute settings workflow (.new id workflowId deviceId parameters createdAt)).run s
  -- The dialogue is that of a run without an outage, cut off where an update first fails.
  obtain ⟨whole, after, course, cut⟩ := cut_course pending given
  have path : Proceeds workflow parameters _ whole after := course.proceeds pending rfl
  obtain ⟨terminal, cancelled, rest, begins, heralded⟩ := cut.heralded course
  have polled : (world.poll s).1 = cancelled := by
    have first : Exchange.polled (world.poll s).1 :: _ = _ := begins
    exact Exchange.polled.inj (List.cons.inj first).1
  refine ⟨after.status, _, _, terminal, rfl, rfl, fun run returned => ?_, heralded.last,
    fun uncancelled => ?_, fun stopped => ?_, heralded.started, heralded.ended, ?_⟩
  · obtain ⟨kept, ended⟩ := (course_of_returned returned).kept
    exact heralded.last run kept ended
  · have expected := heralded.expected
    rwa [← polled, uncancelled] at expected
  · have expected := heralded.expected
    rwa [← polled, stopped] at expected
  · intro number kind run next t reached
    have stored := holds.after number
      (execute settings workflow (.new id workflowId deviceId parameters createdAt)).run s
    have remaining := Procedure.dialogue_after world number
      (execute settings workflow (.new id workflowId deviceId parameters createdAt)).run s
    rw [reached, created] at stored
    rw [reached, Procedure.dialogue] at remaining
    -- What was said up to this moment is a front of the dialogue, which the cut leaves as it is.
    have split := List.take_append_drop number ((execute settings workflow
      (.new id workflowId deviceId parameters createdAt)).run.dialogue world s)
    rw [← remaining] at split
    obtain ⟨others, rfl, -⟩ := cut.of_split rfl split.symm
    have same : held t = run := stored.trans (path.announced rfl).held
    have member : (kind, run) ∈ announcementsOf ((execute settings workflow
        (.new id workflowId deviceId parameters createdAt)).run.dialogue world s) := by
      rw [← split, announcementsOf_append]
      exact List.mem_append_right _ List.mem_cons_self
    rw [same]
    refine ⟨heralded.about kind run member, ?_⟩
    rintro eventId now event rfl
    exact ⟨rfl, rfl, rfl, rfl, rfl, rfl, rfl⟩

theorem announcements_follow_store_on_ledger :
    ∃ dialogue, dialogue = (execute {} Bench.workflow Bench.pending).run.dialogue
        (Ledger.world Bench.answers none) (Ledger.opened Bench.pending Ledger.fullDisk) ∧
      (announcementsOf dialogue).map Prod.fst = [.started] ∧
      (∃ record ∈ keptOf dialogue, record.status = .running) ∧
      ∀ record ∈ keptOf dialogue, record.isTerminal = false := by
  obtain ⟨status, dialogue, kinds, -, rfl, rfl, -, -, -, -, started, ended, -⟩ :=
    announcements_follow_store (Ledger.opened Bench.pending Ledger.fullDisk) {} Bench.workflow
      (.ofSerial 1) Bench.workflow.id ⟨"bench"⟩ Bench.parameters ⟨0, 0⟩
      (Ledger.shows_held Bench.answers none Bench.pending) (Ledger.held_opened Bench.pending _)
  have told : (announcementsOf ((execute {} Bench.workflow Bench.pending).run.dialogue
      (Ledger.world Bench.answers none) (Ledger.opened Bench.pending Ledger.fullDisk))).map
        Prod.fst = [.started] := by
    decide +kernel
  refine ⟨_, rfl, told, started.1 ?_, fun record member => ?_⟩
  · exact told ▸ List.mem_singleton_self _
  · rw [Bool.eq_false_iff]
    intro terminal
    have announced := ended.2 ⟨record, member, terminal⟩
    exact ending_ne_started status (List.mem_singleton.1 (told ▸ announced))

end

end Runbook.Execution
