import Tilewright.Error
import Tilewright.Text.Terminal

/-!
# The journal

What happens in a run is reported as events. An event has a level, and the journal shows the events
up to a level of detail, one line for each: the level, the message, and the event's fields.

An `Outcome` is what a stage of a run comes to: the events that it reported and its result. Stages
follow one another; an error ends the run, and the events before it stay.
-/

namespace Tilewright

/-! ## Events -/

/-- How much detail an event is, from the most important level to the most detailed one. -/
inductive Level where
  | error
  | warn
  | info
  | debug
  | trace
deriving DecidableEq, Repr

namespace Level

/-- The place of a level in the order of detail. -/
def detail : Level → Nat
  | .error => 0
  | .warn => 1
  | .info => 2
  | .debug => 3
  | .trace => 4

/-- The name of a level, filled up with spaces in front to five characters. -/
def label : Level → Text
  | .error => "ERROR".toList
  | .warn => " WARN".toList
  | .info => " INFO".toList
  | .debug => "DEBUG".toList
  | .trace => "TRACE".toList

end Level

/-- What a run reports. -/
inductive Event where
  /-- A configuration was read from a file. -/
  | configLoaded (config : Config) (path : Path)
  /-- A line of the catalogue was read; the move types listed cannot enter. -/
  | rowDecoded (line : Nat) (name : Text) (impassable : List MoveType)
  /-- The whole catalogue was read. -/
  | catalogueLoaded (path : Path) (count : Nat)
  /-- The sentinel before the region is on this line. -/
  | regionStarts (line : Nat)
  /-- The sentinel behind the region is on this line. -/
  | regionEnds (line : Nat)
  /-- The region does not use a placeholder. -/
  | placeholderUnused (needle : Text)
  /-- A class is written. -/
  | classStamped (serial : Nat) (className : Text)
  /-- The generated file was replaced. -/
  | outputWritten (path : Path) (classes bytes : Nat)
  /-- The run is complete. -/
  | generated (classes : Nat)
  /-- The run stopped. -/
  | failed (error : Error)
deriving DecidableEq, Repr

namespace Event

/-- The level of an event. -/
def level : Event → Level
  | .failed _ => .error
  | .catalogueLoaded .. | .outputWritten .. | .generated _ => .info
  | .rowDecoded .. | .classStamped .. => .debug
  | .configLoaded .. | .regionStarts _ | .regionEnds _ | .placeholderUnused _ => .trace

/-- The settings as the journal shows them, each under its name in configuration texts. -/
def showConfig (config : Config) : Text :=
  let between := ", ".toList
  let sentinels := Text.joinWith between [
    "start: ".toList ++ Quoted.quote config.sentinels.opening,
    "end: ".toList ++ Quoted.quote config.sentinels.closing]
  let fields := Text.joinWith between [
    "data_file_path: ".toList ++ Quoted.quote config.catalogue,
    "template_file_path: ".toList ++ Quoted.quote config.host,
    "output_file_path: ".toList ++ Quoted.quote config.output,
    "sentinels: Sentinels \x7b ".toList ++ sentinels ++ " \x7d".toList,
    "terminator: ".toList ++ Quoted.quote config.terminator]
  "GeneratorConfig \x7b ".toList ++ fields ++ " \x7d".toList

/-- The message of an event. -/
def message : Event → Text
  | .configLoaded config path =>
    "loaded ".toList ++ showConfig config ++ " from ".toList ++ path
  | .rowDecoded .. => "decoded terrain row".toList
  | .catalogueLoaded .. => "loaded terrain catalogue".toList
  | .regionStarts _ => "template region starts".toList
  | .regionEnds _ => "template region ends".toList
  | .placeholderUnused _ => "not used by template".toList
  | .classStamped .. => "stamping terrain class".toList
  | .outputWritten .. => "wrote generated terrain".toList
  | .generated classes =>
    "generated ".toList ++ Decimal.ofNat classes ++ " terrain classes".toList
  | .failed error => error.message

/-- The fields of an event, each with its name. -/
def fields : Event → List (Text × Text)
  | .rowDecoded line name impassable =>
    [("line".toList, Decimal.ofNat line), ("name".toList, name),
      ("impassable".toList, Text.joinWith [','] (impassable.map MoveType.tagName))]
  | .catalogueLoaded path count => [("path".toList, path), ("count".toList, Decimal.ofNat count)]
  | .regionStarts line | .regionEnds line => [("line".toList, Decimal.ofNat line)]
  | .placeholderUnused needle => [("placeholder".toList, Quoted.quote needle)]
  | .classStamped serial className =>
    [("serial".toList, Decimal.ofNat serial), ("class".toList, className)]
  | .outputWritten path classes bytes =>
    [("output".toList, path), ("classes".toList, Decimal.ofNat classes),
      ("bytes".toList, Decimal.ofNat bytes)]
  | .configLoaded .. | .generated _ | .failed _ => []

/-- The line that shows an event. A message may hold text from files, so it is defused; the values
of fields are shown as they are. -/
def line (event : Event) : Text :=
  event.level.label ++ ' ' :: Terminal.defuse event.message ++
    event.fields.flatMap (fun (name, value) => ' ' :: name ++ '=' :: value) ++ ['\n']

end Event

/-- The events of a run, in their order. -/
abbrev Journal := List Event

namespace Journal

/-- The events up to a level of detail. -/
def upTo (level : Level) (journal : Journal) : Journal :=
  journal.filter fun event => event.level.detail ≤ level.detail

/-- The text that shows the events up to a level of detail. -/
def render (level : Level) (journal : Journal) : Text :=
  (journal.upTo level).flatMap Event.line

end Journal

/-! ## Outcomes -/

/-- What a stage of a run comes to. -/
structure Outcome (α : Type) where
  events : Journal
  result : Except Error α

namespace Outcome

variable {α β : Type}

/-- Reports an event. -/
def report (event : Event) : Outcome Unit :=
  ⟨[event], .ok ()⟩

/-- Reports several events. -/
def reportAll (events : List Event) : Outcome Unit :=
  ⟨events, .ok ()⟩

/-- Takes a result over; nothing is reported. -/
def ofExcept (result : Except Error α) : Outcome α :=
  ⟨[], result⟩

/-- Goes on with a result. The events of both stages follow one another. -/
def andThen (first : Outcome α) (next : α → Outcome β) : Outcome β :=
  match first.result with
  | .ok a => ⟨first.events ++ (next a).events, (next a).result⟩
  | .error error => ⟨first.events, .error error⟩

instance : Monad Outcome where
  pure a := ⟨[], .ok a⟩
  bind := andThen

instance : MonadLift (Except Error) Outcome where
  monadLift := ofExcept

@[simp] theorem pure_eq (a : α) : (pure a : Outcome α) = ⟨[], .ok a⟩ := rfl

@[simp] theorem bind_ok (events : Journal) (a : α) (next : α → Outcome β) :
    (⟨events, .ok a⟩ : Outcome α) >>= next = ⟨events ++ (next a).events, (next a).result⟩ := rfl

@[simp] theorem bind_error (events : Journal) (error : Error) (next : α → Outcome β) :
    (⟨events, .error error⟩ : Outcome α) >>= next = ⟨events, .error error⟩ := rfl

/-- A run of two stages succeeds exactly when both do, the second on the result of the first. -/
theorem result_bind_eq_ok {first : Outcome α} {next : α → Outcome β} {b : β} :
    (first >>= next).result = .ok b ↔
      ∃ a, first.result = .ok a ∧ (next a).result = .ok b := by
  obtain ⟨events, result⟩ := first
  cases result <;> simp

instance : LawfulMonad Outcome := by
  refine LawfulMonad.mk' _ ?_ ?_ ?_
  · rintro α ⟨events, result⟩
    cases result with
    | error error => rfl
    | ok a =>
      show (⟨events ++ [], .ok a⟩ : Outcome α) = ⟨events, .ok a⟩
      rw [List.append_nil]
  · intro α β a next
    rfl
  · rintro α β γ ⟨events, result⟩ next last
    cases result with
    | error error => rfl
    | ok a =>
      rw [bind_ok, bind_ok]
      -- Whether the second stage succeeds decides if the third one runs.
      rcases next a with ⟨later, outcome⟩
      cases outcome <;> simp

end Outcome

end Tilewright
