import CodeViewer.Proofs.Grammar.Forest
import CodeViewer.Proofs.Viewer.Safety
import CodeViewer.Viewer.Session

/-!
# Sessions

A session waits for an event each time everything was drawn. What holds of the viewer whenever it
waits holds by induction on the events: it holds once a first file is shown, and acting on an event
and drawing keep it.
-/

namespace CodeViewer

open Viewer (Possible)

namespace Session

/-- The states of the viewer in which a session that goes on from a state waits for an event. -/
def waiting (v : Viewer) : List Event → List Viewer
  | [] =>
    match v.draw with
    | .error _ => []
    | .ok w => [w]
  | e :: es =>
    match v.draw with
    | .error _ => []
    | .ok w =>
      match w.step e with
      | .ok (some next) => w :: waiting next es
      | _ => [w]

/-- The frames of a session are on the screen while it waits. -/
theorem frames_run (v : Viewer) (events : List Event) :
    (run v events).frames = (waiting v events).map (·.screen) := by
  induction events generalizing v with
  | nil =>
    unfold run waiting
    cases v.draw with
    | error f => rfl
    | ok w => rfl
  | cons e events ih =>
    unfold run waiting
    cases v.draw with
    | error f => rfl
    | ok w =>
      simp only
      cases w.step e with
      | error f => rfl
      | ok next? =>
        cases next? with
        | none => rfl
        | some next => exact congrArg (w.screen :: ·) (ih next)

/-- The first state was drawn from the one the session goes on from. -/
theorem draw_of_waiting_zero {v : Viewer} {events : List Event} {w : Viewer}
    (h : (waiting v events)[0]? = some w) : v.draw = .ok w := by
  unfold waiting at h
  split at h
  · split at h
    · cases h
    · next hdraw => rw [hdraw, Option.some.inj h]
  · split at h
    · cases h
    · next hdraw =>
      split at h
      · rw [hdraw, Option.some.inj h]
      · rw [hdraw, Option.some.inj h]

/-- Between two states an event was acted on and everything was drawn. -/
theorem step_of_waiting_succ {v : Viewer} {events : List Event} {i : Nat} {w : Viewer}
    (h : (waiting v events)[i + 1]? = some w) :
    ∃ before e u, (waiting v events)[i]? = some before ∧ events[i]? = some e ∧
      before.step e = .ok (some u) ∧ u.draw = .ok w := by
  induction events generalizing v i with
  | nil =>
    unfold waiting at h
    split at h
    · cases h
    · cases h
  | cons e events ih =>
    unfold waiting at h ⊢
    split at h
    · cases h
    · next before hdraw =>
      split at h
      · next next hstep =>
        rw [List.getElem?_cons_succ] at h
        cases i with
        | zero => exact ⟨before, e, next, rfl, rfl, hstep, draw_of_waiting_zero h⟩
        | succ i => exact ih h
      · cases h

/-! ### What holds during a session -/

section

variable {files : List SourceFile} {E : Fault → Prop} {v : Viewer} {events : List Event} {n : Nat}

/-- Whenever a session waits, the viewer is in one of its modes and drawn. A prompt holds no more
characters than there were events. -/
theorem drawn_of_mem_waiting (hfiles : ∀ f ∈ files, f.Searchable E) (h : v.Sound files n)
    (hpossible : ∀ e ∈ events, Possible e) (hn : n + events.length ≤ 2 ^ 60) {w : Viewer}
    (hw : w ∈ waiting v events) : w.Drawn files (n + events.length) := by
  induction events generalizing v n with
  | nil =>
    unfold waiting at hw
    split at hw
    · cases hw
    · next w' hdraw =>
      rw [List.mem_singleton.mp hw]
      exact (h.draw hfiles hn).ok hdraw
  | cons e events ih =>
    rw [List.length_cons] at hn ⊢
    unfold waiting at hw
    split at hw
    · cases hw
    · next w' hdraw =>
      have hdrawn := (h.draw hfiles (by omega)).ok hdraw
      have hmore : w'.Drawn files (n + (events.length + 1)) := hdrawn.mono (by omega)
      split at hw
      · next next hstep =>
        rcases List.mem_cons.mp hw with rfl | hw
        · exact hmore
        · have hnext := (hdrawn.sound.step hfiles (by omega)
            (hpossible e List.mem_cons_self)).ok hstep next rfl
          rw [Nat.add_comm events.length, ← Nat.add_assoc] at hn ⊢
          exact ih hnext (fun e' he' ↦ hpossible e' (List.mem_cons_of_mem _ he')) hn hw
      · rw [List.mem_singleton.mp hw]
        exact hmore

/-- A session ends with its events, or with a fault of the kind its files may lead to. -/
theorem outcome_run (hfiles : ∀ f ∈ files, f.Searchable E) (h : v.Sound files n)
    (hpossible : ∀ e ∈ events, Possible e) (hn : n + events.length ≤ 2 ^ 60) :
    (run v events).outcome = .finished ∨
      ∃ fault, E fault ∧ (run v events).outcome = .fault fault := by
  induction events generalizing v n with
  | nil =>
    unfold run
    cases hdraw : v.draw with
    | error f => exact .inr ⟨f, (h.draw hfiles hn).error hdraw, rfl⟩
    | ok w => exact .inl rfl
  | cons e events ih =>
    rw [List.length_cons] at hn
    unfold run
    cases hdraw : v.draw with
    | error f => exact .inr ⟨f, (h.draw hfiles (by omega)).error hdraw, rfl⟩
    | ok w =>
      have hdrawn := (h.draw hfiles (by omega)).ok hdraw
      have hacted := hdrawn.sound.step hfiles (by omega) (hpossible e List.mem_cons_self)
      simp only
      cases hstep : w.step e with
      | error f => exact .inr ⟨f, hacted.error hstep, rfl⟩
      | ok next? =>
        cases next? with
        | none => exact .inl rfl
        | some next =>
          exact ih (hacted.ok hstep next rfl)
            (fun e' he' ↦ hpossible e' (List.mem_cons_of_mem _ he')) (by omega)

end

/-! ### Whole sessions -/

/-- The states of the viewer in which a whole session on a screen waits for an event. -/
def states (screen : Screen) (files : List SourceFile) (maxDepth : Int) (clipboard : Clipboard)
    (events : List Event) : List Viewer :=
  match Viewer.new files maxDepth screen clipboard.choose.1 Counters.empty
      [clipboardReport clipboard.choose.2] with
  | .error _ => []
  | .ok v => waiting v (events ++ farewell)

/-- The frames of a whole session are on the screen while it waits. -/
theorem frames_start (screen : Screen) (files : List SourceFile) (maxDepth : Int)
    (clipboard : Clipboard) (events : List Event) :
    (start (.ok screen) files maxDepth clipboard events).frames =
      (states screen files maxDepth clipboard events).map (·.screen) := by
  unfold start states
  simp only
  cases Viewer.new files maxDepth screen clipboard.choose.1 Counters.empty
      [clipboardReport clipboard.choose.2] with
  | error f => rfl
  | ok v => exact frames_run v (events ++ farewell)

/-- The first state of a whole session was drawn once the viewer was opened. -/
theorem exists_draw_of_states_zero {screen : Screen} {files : List SourceFile} {maxDepth : Int}
    {clipboard : Clipboard} {events : List Event} {w : Viewer}
    (h : (states screen files maxDepth clipboard events)[0]? = some w) :
    ∃ v, Viewer.new files maxDepth screen clipboard.choose.1 Counters.empty
      [clipboardReport clipboard.choose.2] = .ok v ∧ v.draw = .ok w := by
  unfold states at h
  split at h
  · cases h
  · next v hopened => exact ⟨v, hopened, draw_of_waiting_zero h⟩

/-- Between two states of a whole session an event was acted on and everything was drawn. -/
theorem step_of_states_succ {screen : Screen} {files : List SourceFile} {maxDepth : Int}
    {clipboard : Clipboard} {events : List Event} {i : Nat} {w : Viewer}
    (h : (states screen files maxDepth clipboard events)[i + 1]? = some w) :
    ∃ before e u, (states screen files maxDepth clipboard events)[i]? = some before ∧
      (events ++ farewell)[i]? = some e ∧ before.step e = .ok (some u) ∧ u.draw = .ok w := by
  unfold states at h ⊢
  split at h
  · cases h
  · exact step_of_waiting_succ h

section

variable {files : List SourceFile} {E : Fault → Prop} {screen : Screen} {events : List Event}

private theorem possible_farewell (hpossible : ∀ e ∈ events, Possible e) :
    ∀ e ∈ events ++ farewell, Possible e := by
  intro e he
  rcases List.mem_append.mp he with he | he
  · exact hpossible e he
  · simp only [farewell, List.mem_cons, List.not_mem_nil, or_false, or_self] at he
    rw [he]
    trivial

/-- Whenever a whole session waits, the viewer is in one of its modes and drawn. -/
theorem drawn_of_mem_states (hfiles : ∀ f ∈ files, f.Searchable E) (hne : files ≠ [])
    (hwidth : screen.width < 2 ^ 60) (hheight : screen.height < 2 ^ 60)
    (hpossible : ∀ e ∈ events, Possible e) (hlength : events.length + 2 ≤ 2 ^ 60)
    {maxDepth : Int} {clipboard : Clipboard} {w : Viewer}
    (hw : w ∈ states screen files maxDepth clipboard events) :
    w.Drawn files (events.length + 2) := by
  unfold states at hw
  split at hw
  · cases hw
  · next v hopened =>
    have hnew := Viewer.new_viewing hfiles hne maxDepth hwidth hheight
      (show clipboard.choose.1.method = .internal from rfl) Counters.empty
      [clipboardReport clipboard.choose.2]
    have hdrawn := drawn_of_mem_waiting hfiles (.inl (hnew.ok hopened) : v.Sound files 0)
      (possible_farewell hpossible) (by simpa [farewell] using hlength) hw
    simpa [farewell] using hdrawn

/-- A whole session ends with its events, or with a fault of the kind its files may lead to. -/
theorem outcome_start (hfiles : ∀ f ∈ files, f.Searchable E) (hne : files ≠ [])
    (hwidth : screen.width < 2 ^ 60) (hheight : screen.height < 2 ^ 60)
    (hpossible : ∀ e ∈ events, Possible e) (hlength : events.length + 2 ≤ 2 ^ 60)
    (maxDepth : Int) (clipboard : Clipboard) :
    (start (.ok screen) files maxDepth clipboard events).outcome = .finished ∨
      ∃ fault, E fault ∧
        (start (.ok screen) files maxDepth clipboard events).outcome = .fault fault := by
  have hnew := Viewer.new_viewing hfiles hne maxDepth hwidth hheight
    (show clipboard.choose.1.method = .internal from rfl) Counters.empty
    [clipboardReport clipboard.choose.2]
  unfold start
  simp only
  split
  · next f hfault => exact .inr ⟨f, hnew.error hfault, rfl⟩
  · next v hopened =>
    exact outcome_run hfiles (.inl (hnew.ok hopened) : v.Sound files 0)
      (possible_farewell hpossible) (by simpa [farewell] using hlength)

end

/-- A file in a language and one in none that is no text. -/
def twoFiles (g : CompiledGrammar) : List SourceFile :=
  [⟨"a", "<\n(x".toUTF8, some (Language.ofGrammar g)⟩, ⟨"b", ⟨#[255, 10]⟩, none⟩]

/-- A line is asked for, the screen grows, the line is chosen and the next file shown. -/
def growing : List Event :=
  [.ofKey (.control 'g'), .ofKey (.char '2'), .resize (some (40, 10)), .ofKey .enter,
    .ofKey (.control 'n')]

/-- A grammar whose only pattern breaks down. The lazy repetition ends with an empty iteration and
leaves a mark behind, so that the look-behind around it goes back to a height that its trail does
not have. -/
def stumblingLookbehind : Grammar :=
  { name := "stumbling", rules := [.mk { cls := "a", pattern := "(?<!(?!a)+?)" } none] }

end Session

end CodeViewer
