import Daybook.Proofs.Command.Asking
import Daybook.Proofs.Command.Loading
import Daybook.Proofs.Files.Writing

/-!
# Agreement of the commands

What command lines that use a view do with files in memory. However they are spelled: rendering goes
on past loading for those texts that are accepted, checking as strictly succeeds for the same views,
either fails without a trace where a text is refused, and what is written into a file is what would
have been printed (`render_agrees_with_check`). What a command runs on is the request that its
switches make, so the switches come first (`RenderOptions.AskedBy.ofWords`).
-/

namespace Daybook.Command

open Daybook.Calendar Daybook.Files

/-- Whether a run on a tree failed, printed nothing and left the tree as it was. -/
structure FailsCleanly (t : Tree) (outcome : Outcome × Tree) : Prop where
  fails : outcome.1.status.code ≠ 0
  silent : outcome.1.output = ""
  untouched : outcome.2 = t

/-- Whether files can be written at a path, the folder around them made if need be. -/
def CanWrite (t : Tree) (path : String) : Prop :=
  ∃ text, (writeFile Tree.disk path text t).1 = true

variable {t : Tree}

theorem failsCleanly_failed (t : Tree) (complaint : String) :
    FailsCleanly t (Outcome.failed complaint, t) :=
  ⟨Nat.one_ne_zero, rfl, rfl⟩

/-! ## Writing -/

/-- The tree with the folder around a file, and whether that could be made. -/
def makeParent (t : Tree) (path : String) : Bool × Tree :=
  match parentPath? path with
  | none => (true, t)
  | some parent => t.makeFolders parent

theorem writeFile_eq (t : Tree) (path text : String) :
    writeFile Tree.disk path text t
      = if (makeParent t path).1 then Tree.disk.write path text (makeParent t path).2
        else (false, (makeParent t path).2) := by
  unfold writeFile makeParent
  cases parentPath? path with
  | none => rfl
  | some parent =>
      show (if (t.makeFolders parent).1 then Tree.disk.write path text else pure false)
        (t.makeFolders parent).2 = _
      dsimp only
      cases (t.makeFolders parent).1 <;> rfl

theorem write_disk_eq (t : Tree) (path text : String) :
    Tree.disk.write path text t
      = match t.write? path text with
        | some written => (true, written)
        | none => (false, t) :=
  rfl

/-- Whether writing succeeds is told before any text is looked at, and what was written reads
back. -/
theorem write_disk {path text : String} (h : (Tree.disk.write path text t).1 = true)
    (text' : String) :
    ∃ t', Tree.disk.write path text' t = (true, t') ∧ t'.read path = .ok text' := by
  rw [write_disk_eq] at h
  split at h
  · rename_i written hwritten
    obtain ⟨place, hlocate, hplace, -⟩ := Tree.write?_eq_some_iff.mp hwritten
    have hwrite : t.write? path text' = some (t.withFile place text') :=
      Tree.write?_eq_some_iff.mpr ⟨place, hlocate, hplace, rfl⟩
    refine ⟨_, ?_, Tree.read_of_write? hwrite⟩
    rw [write_disk_eq, hwrite]
  · exact nomatch h

/-- Where files can be written, each text can, and reads back. -/
theorem CanWrite.writeFile {path : String} (h : CanWrite t path) (text : String) :
    ∃ t', writeFile Tree.disk path text t = (true, t') ∧ t'.read path = .ok text := by
  obtain ⟨text', h⟩ := h
  rw [writeFile_eq] at h ⊢
  split at h
  · rename_i hmade
    rw [if_pos hmade]
    exact write_disk h text
  · exact nomatch h

/-! ## Loading -/

section

variable {r : RenderRequest} {viewText eventsText : String}

/-- Loading from files that can be read leaves all files alone, and gives what is accepted. -/
theorem loadDay_of_read (hview : t.read r.view = .ok viewText)
    (hevents : t.read r.events = .ok eventsText) :
    ∃ loaded, loadDay Tree.disk r t = (loaded, t) ∧ ∀ view events,
      loaded = .ok (view, events) ↔ Accepts r.policy viewText eventsText view events := by
  unfold loadDay
  rw [bind_of_step (loadView_of_read hview r.policy)]
  cases hparse : View.parse r.policy .standard viewText with
  | error e =>
      exact ⟨_, rfl, fun view events => ⟨(nomatch ·), fun h => nomatch hparse.symm.trans h.parsed⟩⟩
  | ok view =>
      show ∃ loaded, (loadEvents Tree.disk r.events >>= _) t = (loaded, t) ∧ _
      rw [bind_of_step (loadEvents_of_read hevents)]
      cases hlist : Event.parseList eventsText with
      | error e =>
          refine ⟨_, rfl, fun view' events => ⟨(nomatch ·), fun h => ?_⟩⟩
          exact nomatch hlist.symm.trans (parseList_eq_ok_iff.mpr ⟨h.read, h.ordered⟩)
      | ok events =>
          obtain ⟨hread, hordered⟩ := parseList_eq_ok_iff.mp hlist
          refine ⟨_, rfl, fun view' events' => ⟨fun h => ?_, fun h => ?_⟩⟩
          · obtain ⟨rfl, rfl⟩ := Prod.mk.inj (Except.ok.inj h)
            exact ⟨hparse, hread, hordered⟩
          · obtain rfl := Except.ok.inj (hparse.symm.trans h.parsed)
            obtain rfl := Except.ok.inj (hread.symm.trans h.read)
            rfl

/-- Checking a file that can be read tells whether its text is a view. -/
theorem runCheck_of_read {path : String} (hview : t.read path = .ok viewText) (strict : Bool) :
    (∃ view, View.parse ⟨strict, true⟩ .standard viewText = .ok view
        ∧ runCheck Tree.disk path strict t = (.printed (checkLine view), t))
      ∨ (∃ e, View.parse ⟨strict, true⟩ .standard viewText = .error e
        ∧ runCheck Tree.disk path strict t = (.failed (path ++ ": " ++ e.message), t)) := by
  have hrun : runCheck Tree.disk path strict t = _ :=
    bind_of_step (loadView_of_read hview ⟨strict, true⟩) _
  cases hparse : View.parse ⟨strict, true⟩ .standard viewText with
  | error e =>
      rw [hparse] at hrun
      exact .inr ⟨e, rfl, hrun⟩
  | ok view =>
      rw [hparse] at hrun
      exact .inl ⟨view, rfl, hrun⟩

end

/-! ## Command lines -/

section

variable {words : List String}

theorem run_of_ofWords {m : Type → Type} [Monad m] {disk : Disk m} {clock : m Instant}
    {request : Request} (h : Request.ofWords words = .ok request) :
    run disk clock words = runRequest disk clock request := by
  unfold run
  rw [h]

variable {r : RenderRequest} {viewText eventsText : String} {clock : StateM Tree Instant}
  (hwords : Request.ofWords words = .ok (.render r)) (hview : t.read r.view = .ok viewText)

include hview

/-- Checking accepts the views that rendering accepts, and leaves all files alone. -/
theorem run_check (hcheck : Request.ofWords words = .ok (.check r.view r.policy.strictTokens)) :
    ((run Tree.disk clock words t).1.status.code = 0
        ↔ ∃ view, View.parse r.policy .standard viewText = .ok view)
      ∧ ((run Tree.disk clock words t).1.status.code = 0
        ∨ FailsCleanly t (run Tree.disk clock words t))
      ∧ (run Tree.disk clock words t).2 = t := by
  have hrun : run Tree.disk clock words t = runCheck Tree.disk r.view r.policy.strictTokens t := by
    rw [run_of_ofWords hcheck]
    rfl
  have hsame : (⟨r.policy.strictTokens, true⟩ : Policy).strictTokens = r.policy.strictTokens := rfl
  rcases runCheck_of_read hview r.policy.strictTokens with ⟨view, hparse, h⟩ | ⟨e, hparse, h⟩
  · rw [hrun, h]
    exact ⟨⟨fun _ => parse_of_strictTokens hsame hparse, fun _ => rfl⟩, .inl rfl, rfl⟩
  · rw [hrun, h]
    refine ⟨⟨(nomatch ·), fun ⟨view, hview⟩ => ?_⟩, .inr (failsCleanly_failed t _), rfl⟩
    obtain ⟨view', hview'⟩ := parse_of_strictTokens hsame.symm hview
    exact nomatch hparse.symm.trans hview'

variable (hevents : t.read r.events = .ok eventsText)

include hwords hevents

/-- A run that renders goes on from what it has loaded. -/
theorem run_render (clock : StateM Tree Instant) :
    ∃ loaded, loadDay Tree.disk r t = (loaded, t)
      ∧ (∀ view events,
        loaded = .ok (view, events) ↔ Accepts r.policy viewText eventsText view events)
      ∧ run Tree.disk clock words t = renderLoaded Tree.disk clock r loaded t := by
  obtain ⟨loaded, hloaded, haccepts⟩ := loadDay_of_read hview hevents
  refine ⟨loaded, hloaded, haccepts, ?_⟩
  rw [run_of_ofWords hwords]
  show runRender Tree.disk clock r t = _
  rw [runRender_eq, bind_of_step hloaded]

/-- A run that renders delivers the day that two accepted texts make. -/
theorem run_of_accepts {now : Instant} (hnow : r.now = some now) {view : View}
    {events : List Event} (haccepts : Accepts r.policy viewText eventsText view events) :
    run Tree.disk clock words t
      = deliver Tree.disk (dayFragment view events (r.day.getD now.date) now) r.output t := by
  obtain ⟨loaded, -, hloaded, hrun⟩ := run_render hwords hview hevents clock
  rw [hrun, (hloaded view events).mpr haccepts, renderLoaded, hnow]
  rfl

/-- A run that renders fails without a trace if one of its texts is refused. -/
theorem run_of_refused
    (hrefused : ¬∃ view events, Accepts r.policy viewText eventsText view events) :
    FailsCleanly t (run Tree.disk clock words t) := by
  obtain ⟨loaded, -, hloaded, hrun⟩ := run_render hwords hview hevents clock
  rw [hrun]
  cases loaded with
  | error complaint => exact failsCleanly_failed t complaint
  | ok loaded => exact absurd ⟨_, _, (hloaded _ _).mp rfl⟩ hrefused

end

theorem deliver_of_canWrite {path : String} (h : CanWrite t path) (text : String) :
    ∃ t', deliver Tree.disk text (some path) t = (.printed "", t') ∧ t'.read path = .ok text := by
  obtain ⟨t', hwrite, hread⟩ := h.writeFile text
  refine ⟨t', ?_, hread⟩
  rw [deliver, bind_of_step hwrite]
  rfl

/-- **The commands agree, and fail without a trace.** Whatever the texts of its two files, a command
line that asks for rendering with an instant given gets past loading if and only if the view is
accepted as strictly as is asked for and the events are records that end no earlier than they start.
If they are not, it fails, prints nothing and leaves all files as they are. A command line that asks
for checking the view as strictly succeeds exactly for the views that rendering accepts, whether or
not links are wanted. Where a file can be written, it is written what a command line prints that
asks for the same without the file. -/
theorem render_agrees_with_check {words : List String} {o : RenderOptions} {t : Tree}
    {viewText eventsText : String} (hwords : o.AskedBy words) (hnow : o.now.isSome)
    (hview : t.read o.view = .ok viewText) (hevents : t.read o.events = .ok eventsText)
    (clock : StateM Tree Instant) :
    (∃ loaded, loadDay Tree.disk o.request t = (loaded, t)
        ∧ (∀ view events, loaded = .ok (view, events)
          ↔ Accepts ⟨o.strict, !o.noLinks⟩ viewText eventsText view events)
        ∧ run Tree.disk clock words t = renderLoaded Tree.disk clock o.request loaded t)
      ∧ ((¬∃ view events, Accepts ⟨o.strict, !o.noLinks⟩ viewText eventsText view events) →
        FailsCleanly t (run Tree.disk clock words t))
      ∧ (∀ checkWords, AsksCheck checkWords o.view o.strict →
          ((run Tree.disk clock checkWords t).1.status.code = 0
              ↔ ∃ view, View.parse ⟨o.strict, !o.noLinks⟩ .standard viewText = .ok view)
            ∧ ((run Tree.disk clock checkWords t).1.status.code = 0
              ∨ FailsCleanly t (run Tree.disk clock checkWords t))
            ∧ (run Tree.disk clock checkWords t).2 = t)
      ∧ ∀ plainWords, { o with output := none }.AskedBy plainWords →
        ((run Tree.disk clock plainWords t).1.status.code = 0
            ↔ ∃ view events, Accepts ⟨o.strict, !o.noLinks⟩ viewText eventsText view events)
          ∧ (run Tree.disk clock plainWords t).2 = t
          ∧ ∀ path, o.output = some path → CanWrite t path →
            (∃ view events, Accepts ⟨o.strict, !o.noLinks⟩ viewText eventsText view events) →
            ∃ t', run Tree.disk clock words t = (.printed "", t')
              ∧ t'.read path = .ok (run Tree.disk clock plainWords t).1.output := by
  obtain ⟨now, hnow⟩ := hwords.exists_now hnow
  have hrender : Request.ofWords words = .ok (.render o.request) := hwords.ofWords
  refine ⟨run_render hrender hview hevents clock, run_of_refused hrender hview hevents,
    fun checkWords hcheck =>
      run_check (r := o.request) hview (ofWords_eq_check_iff.mpr hcheck),
    fun plainWords hplain => ?_⟩
  have hplain : Request.ofWords plainWords = .ok (.render { o.request with output := none }) :=
    hplain.ofWords
  have hprinted : ∀ view events, Accepts o.request.policy viewText eventsText view events →
      run Tree.disk clock plainWords t
        = (.printed (dayFragment view events (o.request.day.getD now.date) now), t) :=
    fun view events haccepts => run_of_accepts hplain hview hevents hnow haccepts
  by_cases haccepts : ∃ view events, Accepts o.request.policy viewText eventsText view events
  · obtain ⟨view, events, h⟩ := haccepts
    rw [hprinted view events h]
    refine ⟨⟨fun _ => ⟨view, events, h⟩, fun _ => rfl⟩, rfl, fun path hpath hwrite _ => ?_⟩
    have houtput : o.request.output = some path := hpath
    rw [run_of_accepts hrender hview hevents hnow h, houtput]
    exact deliver_of_canWrite hwrite _
  · have hfails : FailsCleanly t (run Tree.disk clock plainWords t) :=
      run_of_refused hplain hview hevents haccepts
    exact ⟨⟨fun hcode => absurd hcode hfails.fails, fun h => absurd h haccepts⟩, hfails.untouched,
      fun _ _ _ h => absurd h haccepts⟩

/-! A view of one line, a feed of one event, and the command lines that use them. -/

private def lineText : String :=
  "\x7b\"article\": [[\"On: \", \"$_event.summary\"]]\x7d"

private def feedText : String :=
  "[\x7b\"summary\": \"Lecture\", \"start\": \"2026-03-02T09:00:00Z\", " ++
    "\"end\": \"2026-03-02T10:00:00+01:00\"\x7d]"

private def feedTree : Tree :=
  .ofFiles [] [("view.json", lineText), ("feed.json", feedText)]

private def feedNow : Instant :=
  ⟨⟨2026, 3, 2⟩, ⟨9, 30, 0, 0⟩, 0⟩

private def feedOptions : RenderOptions :=
  ⟨"view.json", "feed.json", none, some "2026-03-02T09:30:00Z", some "out/day.html", true, true⟩

private def feedWords : List String :=
  ["render", "--view=view.json", "--events", "feed.json", "--now=2026-03-02T09:30:00Z", "--strict",
    "--no-links"]

private def fileWords : List String :=
  ["-v", "render", "-vo", "out/day.html", "--no-links", "--now", "2026-03-02T09:30:00Z", "--strict",
    "--events=feed.json", "--view", "view.json", "--verbose"]

private theorem accepts_feed :
    ∃ view events, Accepts ⟨true, false⟩ lineText feedText view events := by
  have hview : (View.parse ⟨true, false⟩ .standard lineText).toOption.isSome := by
    decide +kernel
  have hevents : (Event.parseList feedText).toOption.isSome := by decide +kernel
  obtain ⟨hread, hordered⟩ := parseList_eq_ok_iff.mp (eq_ok_get hevents)
  exact ⟨_, _, eq_ok_get hview, hread, hordered⟩

theorem render_agrees_with_check_feed :
    feedOptions.AskedBy fileWords
      ∧ { feedOptions with output := none }.AskedBy feedWords
      ∧ AsksCheck ["check", "view.json", "--strict"] "view.json" true
      ∧ (∃ t', run Tree.disk (pure feedNow) fileWords feedTree = (.printed "", t')
        ∧ t'.read "out/day.html" = .ok (run Tree.disk (pure feedNow) feedWords feedTree).1.output)
      ∧ (run Tree.disk (pure feedNow) ["check", "view.json", "--strict"] feedTree).1.status.code
        = 0 := by
  have hwords : feedOptions.AskedBy fileWords :=
    asks_of_read (fileWords.drop 2) renderBoard_sound (by decide +kernel) (by decide +kernel)
  have hplain : { feedOptions with output := none }.AskedBy feedWords :=
    asks_of_read (feedWords.drop 1) renderBoard_sound (by decide +kernel) (by decide +kernel)
  have hcheck : AsksCheck ["check", "view.json", "--strict"] "view.json" true :=
    ofWords_eq_check_iff.mp (by decide +kernel)
  have hview : feedTree.read feedOptions.view = .ok lineText := by decide +kernel
  have hevents : feedTree.read feedOptions.events = .ok feedText := by decide +kernel
  have hwrite : CanWrite feedTree "out/day.html" := ⟨"", by decide +kernel⟩
  obtain ⟨-, -, hchecked, hprinted⟩ :=
    render_agrees_with_check hwords rfl hview hevents (pure feedNow)
  obtain ⟨view, events, haccepts⟩ := accepts_feed
  obtain ⟨t', hrun, hread⟩ := (hprinted _ hplain).2.2 _ rfl hwrite ⟨view, events, haccepts⟩
  exact ⟨hwords, hplain, hcheck, ⟨t', hrun, hread⟩,
    (hchecked _ hcheck).1.mpr ⟨view, haccepts.parsed⟩⟩

end Daybook.Command
