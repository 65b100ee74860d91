import Daybook.Command.Run
import Daybook.Files.Tree
import Daybook.Proofs.Calendar.Feeds
import Daybook.Proofs.View.Unlinked

/-!
# Loading before anything else

Rendering a day has two stages. The first one loads the view and then the events and touches no file
(`loadDay`); the second one prints a text or writes it (`deliver`). What the first stage comes to is
told by the texts of the two files (`Accepts`).
-/

namespace Daybook.Command

open Daybook.Calendar Daybook.Files

/-! ## Stages -/

/-- Loads what a day is rendered from, the view first. -/
def loadDay [Monad m] (disk : Disk m) (r : RenderRequest) :
    m (Except String (View × List Event)) := do
  match ← loadView disk r.policy r.view with
  | .error complaint => return .error complaint
  | .ok view =>
    match ← loadEvents disk r.events with
    | .error complaint => return .error complaint
    | .ok events => return .ok (view, events)

/-- Prints a text, or writes it into a file. -/
def deliver [Monad m] (disk : Disk m) (text : String) : Option String → m Outcome
  | none => return .printed text
  | some path => do
    if ← writeFile disk path text then return .printed ""
    else return .failed ("write " ++ path)

/-- Renders what was loaded and delivers it. -/
def renderLoaded [Monad m] (disk : Disk m) (clock : m Instant) (r : RenderRequest) :
    Except String (View × List Event) → m Outcome
  | .error complaint => return .failed complaint
  | .ok (view, events) => do
    let now ← match r.now with
      | some now => pure now
      | none => clock
    deliver disk (dayFragment view events (r.day.getD now.date) now) r.output

theorem runRender_eq {m : Type → Type} [Monad m] [LawfulMonad m] (disk : Disk m)
    (clock : m Instant) (r : RenderRequest) :
    runRender disk clock r = loadDay disk r >>= renderLoaded disk clock r := by
  unfold runRender loadDay
  rw [bind_assoc]
  refine bind_congr (m := m) fun view => ?_
  cases view with
  | error complaint => rw [pure_bind, renderLoaded]
  | ok view =>
      dsimp only
      rw [bind_assoc]
      refine bind_congr (m := m) fun events => ?_
      cases events with
      | error complaint =>
          dsimp only
          rw [pure_bind, renderLoaded]
      | ok events =>
          dsimp only
          rw [pure_bind, renderLoaded]
          cases r.output <;> rfl

/-! ## Accepted texts -/

/-- Whether two texts are accepted: one as a view under a policy, the other one as a list of records
of events that end no earlier than they start. -/
structure Accepts (policy : Policy) (viewText eventsText : String) (view : View)
    (events : List Event) : Prop where
  parsed : View.parse policy .standard viewText = .ok view
  read : Json.readAll readEvents eventsText.toList = .ok events
  ordered : ∀ e ∈ events, e.isOrdered = true

/-- Whether links are wanted does not matter for whether a view is accepted. -/
theorem parse_of_strictTokens {policy policy' : Policy} {limits : Limits} {text : String}
    (hpolicy : policy.strictTokens = policy'.strictTokens) {view : View}
    (h : View.parse policy limits text = .ok view) :
    ∃ view', View.parse policy' limits text = .ok view' := by
  obtain ⟨d, hd, hview⟩ := bind_ok_iff.mp h
  have hsame : ({ policy with linkUrls := policy'.linkUrls } : Policy) = policy' := by
    cases policy'
    exact congrArg (Policy.mk · _) hpolicy
  have hview' := View.compile_with_linkUrls hview policy'.linkUrls
  rw [hsame] at hview'
  exact ⟨_, bind_ok_iff.mpr ⟨d, hd, hview'⟩⟩

/-! ## Files in memory -/

/-- What follows a step goes on with what the step gives and leaves. -/
theorem bind_of_step {σ α β : Type} {x : StateM σ α} {s s' : σ} {a : α} (h : x s = (a, s'))
    (f : α → StateM σ β) : (x >>= f) s = f a s' := by
  show f (x s).1 (x s).2 = _
  rw [h]

section

variable {t : Tree} {path text : String}

/-- Loading a file that can be read gives what is made of its text, and leaves all files alone. -/
theorem loadFile_of_read (h : t.read path = .ok text) (parse : String → Except Error α) :
    loadFile Tree.disk path parse t = ((parse text).mapError (path ++ ": " ++ ·.message), t) := by
  have hread : Tree.disk.read path t = (.ok text, t) := by
    show (t.read path, t) = _
    rw [h]
  unfold loadFile
  rw [bind_of_step hread]
  dsimp only
  cases parse text <;> rfl

theorem loadView_of_read (h : t.read path = .ok text) (policy : Policy) :
    loadView Tree.disk policy path t
      = ((View.parse policy .standard text).mapError (path ++ ": " ++ ·.message), t) :=
  loadFile_of_read h _

theorem loadEvents_of_read (h : t.read path = .ok text) :
    loadEvents Tree.disk path t
      = ((Event.parseList text).mapError (path ++ ": " ++ ·.message), t) :=
  loadFile_of_read h _

end

end Daybook.Command
