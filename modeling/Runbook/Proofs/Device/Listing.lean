import Runbook.Proofs.Device.Recording
import Runbook.Proofs.Device.Succession

/-! Scripts as a file lists them, beside scripts to which the same responses are added one by one.

Adding responses never leaves a queue empty, but a file may list a command without any. That command has
an entry then, so it does not get the default.
-/

set_option autoImplicit false

namespace Runbook.Document.Record

variable {α β γ δ ε : Type}

/-- Another record has the same fields, and gives what a function makes of what the one gives. -/
structure Makes (f : α → β) (record : Record α) (other : Record β) : Prop where
  fields : other.fields = record.fields
  members (format : Format) (members : List Member) :
    other.ofMembers format members = (record.ofMembers format members).map f
  items (format : Format) (shape : String) (position : Nat) (items : List Value) :
    other.ofItems format shape position items =
      (record.ofItems format shape position items).map fun read => (f read.1, read.2)

namespace Makes

theorem field {f : α → β} {decode : Decoder α} {other : Decoder β} {name : String}
    {absent cut : Option α} (same : ∀ format value, other format value = (decode format value).map f) :
    Makes f (field name decode absent cut) (field name other (absent.map f) (cut.map f)) where
  fields := by
    have check : (fun format value => (other format value).map fun _ => ()) =
        fun format value => (decode format value).map fun _ => () := by
      funext format value
      rw [same]
      cases decode format value <;> rfl
    exact congrArg (fun check => [Field.mk name check]) check
  members format members := by
    simp only [Record.field]
    cases members.lookup name with
    | some value => exact same format value
    | none => cases absent <;> rfl
  items format shape position items := by
    cases items with
    | nil => cases cut <;> rfl
    | cons value rest =>
      simp only [Record.field, same]
      cases decode format value <;> rfl

theorem seq {f : α → β} {g : γ → δ} {head : Record ε} {build : ε → α → γ} {rebuild : ε → β → δ}
    {record : Record α} {other : Record β} (makes : Makes f record other)
    (same : ∀ first a, g (build first a) = rebuild first (f a)) :
    Makes g (build <$> head <*> record) (rebuild <$> head <*> other) where
  fields := congrArg ([] ++ head.fields ++ ·) makes.fields
  members format members := by
    simp only [Functor.map, Seq.seq, Record.seq, Record.pure, makes.members, bind, Except.bind]
    cases head.ofMembers format members with
    | error fault => rfl
    | ok first =>
      cases record.ofMembers format members with
      | error fault => rfl
      | ok a => exact congrArg Except.ok (same first a).symm
  items format shape position items := by
    simp only [Functor.map, Seq.seq, Record.seq, Record.pure, makes.items, bind, Except.bind]
    cases head.ofItems format shape position items with
    | error fault => rfl
    | ok read =>
      simp only [Pure.pure, Except.pure]
      cases record.ofItems format shape read.2.1 read.2.2 with
      | error fault => rfl
      | ok more => exact congrArg (fun result => Except.ok (result, more.2)) (same read.1 more.1).symm

theorem decode {f : α → β} {record : Record α} {other : Record β} (makes : Makes f record other)
    (name : String) (strict : Bool) (format : Format) (value : Value) :
    other.decode name strict format value = (record.decode name strict format value).map f := by
  have ofMembers (found : List Member) : other.decodeMembers strict format found =
      (record.decodeMembers strict format found).map f := by
    rw [decodeMembers, decodeMembers, makes.fields, makes.members]
    cases check record.fields strict format [] found <;> rfl
  cases value with
  | object found => exact ofMembers found
  | moment text => exact ofMembers []
  | array found =>
    show other.decodeItems _ format found = (record.decodeItems _ format found).map f
    simp only [decodeItems, makes.fields, makes.items]
    cases record.ofItems format _ 0 found with
    | error fault => rfl
    | ok read =>
      show (if _ then _ else _) = Except.map f (if _ then _ else _)
      split <;> rfl
  | _ => rfl

end Makes

end Runbook.Document.Record

namespace Runbook.Device

open Document

/-- The default of a script file, and its commands with their responses, in the order of the text. -/
structure Listing where
  fallback : Option Response
  entries : List (String × List Response)
  deriving DecidableEq, Repr

namespace Listing

def decodeEntries : Decoder (List (String × List Response)) := fun format value =>
  match value with
  | .object members => members.mapM fun member => do
    return (member.1, ← Response.decodeEntry format member.2)
  | _ => Decoder.wanted "a map" format value

def layout : Record Listing :=
  Listing.mk <$> Record.optional "default" (Decoder.nullable Response.decode) none
    <*> Record.optional "responses" decodeEntries []

def decode : Decoder Listing :=
  layout.decode "ReplayScriptFile" false

def parse (text : String) : Except ReadFault Listing :=
  readWith decode .json text

def script (listing : Listing) : Script :=
  ⟨Table.ofList listing.entries, listing.fallback⟩

/-- Every response of every command in the order of the file. -/
def recordings (listing : Listing) : List (String × Response) :=
  listing.entries.flatMap fun entry => entry.2.map fun response => (entry.1, response)

def built (listing : Listing) : Script :=
  let script := Script.empty.onAll listing.recordings
  match listing.fallback with
  | none => script
  | some response => script.withFallback response

theorem decodeQueues_eq (format : Format) (value : Value) :
    Script.decodeQueues format value = (decodeEntries format value).map Table.ofList := by
  cases value with
  | object members => exact (map_eq_pure_bind Table.ofList _).symm
  | broken => rfl
  | _ => rfl

theorem decode_eq (format : Format) (value : Value) :
    Script.decode format value = (decode format value).map script := by
  have makes : Record.Makes script layout Script.layout :=
    .seq (.field decodeQueues_eq) fun _ _ => rfl
  exact makes.decode "ReplayScriptFile" false format value

theorem parse_eq (text : String) : Script.parse text = (parse text).map script := by
  rw [Script.parse, parse, readWith, readWith]
  cases parse? .json text with
  | none => rfl
  | some value =>
    simp only [decode_eq]
    cases decode .json value <;> rfl

section
variable (listing : Listing) (command : String)

theorem get?_script :
    listing.script.queues.get? command = (Table.valuesOf command listing.entries).getLast? :=
  Table.get?_ofList listing.entries command

theorem valuesOf_recordings :
    Table.valuesOf command listing.recordings = (Table.valuesOf command listing.entries).flatten := by
  obtain ⟨fallback, entries⟩ := listing
  induction entries with
  | nil => rfl
  | cons entry rest ih =>
    have own : Table.valuesOf command (entry.2.map fun response => (entry.1, response)) =
        if entry.1 = command then entry.2 else [] := by
      by_cases same : entry.1 = command <;> simp [Table.valuesOf, List.filterMap_map, same]
    have split : Table.valuesOf command (recordings ⟨fallback, entry :: rest⟩) =
        (if entry.1 = command then entry.2 else []) ++ (Table.valuesOf command rest).flatten := by
      rw [← own, ← ih]
      exact List.filterMap_append
    rw [split, Table.valuesOf_cons]
    by_cases same : entry.1 = command
    · rw [if_pos same, if_pos same, List.flatten_cons]
    · rw [if_neg same, if_neg same, List.nil_append]

theorem built_queues : listing.built.queues = (Script.empty.onAll listing.recordings).queues := by
  unfold built
  split <;> rfl

theorem built_fallback : listing.built.fallback = listing.fallback := by
  unfold built
  split <;> rename_i given <;> rw [given]
  · exact Script.onAll_fallback _ _
  · rfl

theorem get?_built :
    listing.built.queues.get? command =
      if (Table.valuesOf command listing.entries).flatten = [] then none
      else some (Table.valuesOf command listing.entries).flatten := by
  rw [built_queues, Script.get?_onAll, valuesOf_recordings]
  rfl

end

theorem response?_congr {script other : Script} {command : String}
    (queue : script.queues.get? command = other.queues.get? command)
    (fallback : script.fallback = other.fallback) (number : Nat) :
    script.response? command number = other.response? command number := by
  rw [Script.response?, Script.response?, queue, fallback]

section
variable {listing : Listing} {command : String} (number : Nat)

theorem response?_of_unlisted (unlisted : Table.valuesOf command listing.entries = []) :
    listing.script.response? command number = listing.built.response? command number := by
  refine response?_congr ?_ listing.built_fallback.symm number
  rw [get?_script, get?_built, unlisted]
  rfl

theorem response?_of_listed {queue : List Response}
    (listed : Table.valuesOf command listing.entries = [queue]) (some : queue ≠ []) :
    listing.script.response? command number = listing.built.response? command number := by
  refine response?_congr ?_ listing.built_fallback.symm number
  have all : [queue].flatten = queue := List.flatten_singleton
  rw [get?_script, get?_built, listed, all, if_neg some]
  rfl

/-- A queue without responses is not the same as no queue. -/
theorem response?_of_empty (listed : Table.valuesOf command listing.entries = [[]]) :
    listing.script.response? command number = none ∧
      listing.built.response? command number = listing.fallback := by
  constructor
  · rw [Script.response?, get?_script, listed]
    rfl
  · rw [Script.response?, get?_built, listed, built_fallback]
    rfl

theorem response?_of_last {queue : List Response}
    (last : (Table.valuesOf command listing.entries).getLast? = some queue) (some : queue ≠ []) :
    listing.script.response? command number =
      (Script.empty.onAll (queue.map fun response => (command, response))).response? command number := by
  have own : Table.valuesOf command (queue.map fun response => (command, response)) = queue := by
    simp [Table.valuesOf, List.filterMap_map]
  rw [Script.response?, Script.response?, get?_script, last, Script.get?_onAll, own, if_neg some]
  rfl

end

/-- A command that a file lists once, with any responses, or not at all is answered as if its responses had
been added one by one, whatever was sent before. Listed without responses it gets none, where the other
script has the default; listed repeatedly it gets those of its last listing. -/
theorem read_like_built (text : String) (script : Script) (read : Script.parse text = .ok script) :
    ∃ listing, parse text = .ok listing ∧
      ∀ (device : DeviceId) (sent : List String) (command : String),
        let queues := Table.valuesOf command listing.entries
        let heard (script : Script) :=
          (((⟨device, script, false⟩ : Replay.Session).after sent).hear command).1
        (queues.length ≤ 1 → ([] ∈ queues → listing.fallback = none) →
          heard script = heard listing.built) ∧
        (queues = [[]] → heard script = .to command none ∧
          heard listing.built = .to command listing.fallback) ∧
        (∀ queue, queues.getLast? = some queue → queue ≠ [] →
          heard script = heard (Script.empty.onAll (queue.map fun response => (command, response)))) := by
  rw [parse_eq] at read
  cases listed : parse text with
  | error fault => rw [listed] at read; cases read
  | ok listing =>
    rw [listed] at read
    cases read
    refine ⟨listing, rfl, ?_⟩
    intro device sent command queues heard
    obtain ⟨number, counted⟩ : ∃ number, number = sent.count command + 1 := ⟨_, rfl⟩
    have answered (script : Script) : heard script = .to command (script.response? command number) :=
      counted ▸ Replay.Session.answer_after (by rfl) sent command
    simp only [answered]
    refine ⟨fun few given => ?_, fun empty => ?_, fun queue last some => ?_⟩
    · -- With two listings the one script has the last of them, the other has both.
      match form : queues with
      | [] => rw [response?_of_unlisted number form]
      | [[]] =>
        obtain ⟨none, default⟩ := response?_of_empty number form
        rw [none, default, given List.mem_cons_self]
      | [first :: rest] => rw [response?_of_listed number form (List.cons_ne_nil first rest)]
      | _ :: _ :: _ => exact absurd few (by simp)
    · obtain ⟨none, default⟩ := response?_of_empty number empty
      rw [none, default]
      exact ⟨rfl, rfl⟩
    · rw [response?_of_last number last some]

theorem read_like_built_from_text :
    let text := "\x7b\"default\": \x7b\"output\": \"up\"\x7d, \"responses\": " ++
      "\x7b\"show\": [\x7b\"output\": \"down\"\x7d, \x7b\x7d], \"ping\": []\x7d\x7d"
    ∃ script listing, Script.parse text = .ok script ∧ parse text = .ok listing ∧
      let heard (script : Script) (command : String) :=
        (((⟨⟨"core"⟩, script, false⟩ : Replay.Session).after ["show"]).hear command).1
      heard script "show" = heard listing.built "show" ∧
        heard script "ping" = .to "ping" none ∧
        heard listing.built "ping" = .to "ping" (some { output := "up" }) := by
  intro text
  have read : Script.parse text = .ok ⟨.ofList [("show", [{ output := "down" }, {}]), ("ping", [])],
      some { output := "up" }⟩ := by decide +kernel
  obtain ⟨listing, listed, same⟩ := read_like_built text _ read
  have content : parse text = .ok ⟨some { output := "up" },
      [("show", [{ output := "down" }, {}]), ("ping", [])]⟩ := by decide +kernel
  cases listed.symm.trans content
  have some : ([] : List Response) ∉ [[({ output := "down" } : Response), {}]] := by decide
  refine ⟨_, _, read, listed, ?_, (same ⟨"core"⟩ ["show"] "ping").2.1 rfl⟩
  exact (same ⟨"core"⟩ ["show"] "show").1 (Nat.le_refl 1) fun empty => absurd empty some

/-- Added one by one, no responses are no entry, and the default comes. -/
theorem read_unlike_built_when_empty :
    ∃ script listing,
      let text := "\x7b\"default\": \x7b\"output\": \"up\"\x7d, \"responses\": " ++
        "\x7b\"show version\": []\x7d\x7d"
      let heard (script : Script) :=
        ((⟨⟨"core"⟩, script, false⟩ : Replay.Session).hear "show version").1
      Script.parse text = .ok script ∧ parse text = .ok listing ∧
        heard script = ⟨.error (.transport "no recorded response for 'show version'"), 0⟩ ∧
        heard listing.built = ⟨.ok ⟨"up", none⟩, 0⟩ :=
  ⟨⟨.ofList [("show version", [])], some { output := "up" }⟩,
    ⟨some { output := "up" }, [("show version", [])]⟩,
    by decide +kernel, by decide +kernel, rfl, rfl⟩

end Listing

end Runbook.Device
