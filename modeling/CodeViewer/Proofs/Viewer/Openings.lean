import CodeViewer.Proofs.Metrics.Counters
import CodeViewer.Proofs.Viewer.GoingToLine
import CodeViewer.Proofs.Viewer.Session

/-!
# Every opening is counted once

A file is scanned when it is opened, and its highlighting is up to date from then on. Whatever is
done to a view that is up to date scans nothing, so that nothing is counted but the openings. Which
files are opened is told by the keys alone.
-/

namespace CodeViewer

/-! ### What the keys ask for -/

/-- How far a session has come: the index of the file that is shown, and whether a line is asked
for. -/
structure Course where
  current : Nat
  asking : Bool

namespace Course

/-- The index of the file an event opens, if there are `count` files. Ctrl+N and Ctrl+P open the
file behind and the one in front, unless a line is asked for. -/
def opens (count : Nat) (c : Course) : Event → Option Nat
  | .resize _ => none
  | .key k =>
    if c.asking then none
    else if k.key = .control 'n' then some ((c.current + 1) % count)
    else if k.key = .control 'p' then some ((c.current + count - 1) % count)
    else none

/-- Whether a line is asked for behind an event: Ctrl+G asks for one, Enter and Esc answer. -/
def asks (c : Course) : Event → Bool
  | .resize _ => c.asking
  | .key k =>
    if c.asking then k.key ≠ .enter ∧ k.key ≠ .escape else k.key = .control 'g'

/-- How far a session has come behind an event. -/
def next (count : Nat) (c : Course) (e : Event) : Course :=
  ⟨(c.opens count e).getD c.current, c.asks e⟩

/-- How far a session has come behind some events that do not end it. -/
def after (count : Nat) (c : Course) (events : List Event) : Course := events.foldl (next count) c

/-- Whether an event ends the session: Esc and Ctrl+Q do, unless a line is asked for. -/
def ends (c : Course) : Event → Bool
  | .resize _ => false
  | .key k => !c.asking && (k.key = .escape || k.key = .control 'q')

/-- The files some events open, one after the other, until one of the events ends the session. -/
def openings (files : List SourceFile) : Course → List Event → List SourceFile
  | _, [] => []
  | c, e :: es =>
    if c.ends e then []
    else ((c.opens files.length e).bind (files[·]?)).toList ++
      openings files (c.next files.length e) es

end Course

/-! ### What is counted -/

/-- The tokens of a scan of a file, up to the error if there is one. Plain text is not scanned. -/
def SourceFile.tokens (f : SourceFile) (maxDepth : Int) : List Token :=
  match f.language with
  | none => []
  | some l => (scan l.grammar maxDepth f.contents).1.toList

/-- Some files were each scanned and counted once. -/
structure Counters.Counted (c : Counters) (maxDepth : Int) (opened : List SourceFile) : Prop where
  scans : ∀ name, c.scans.count name = opened.countP (·.grammarName == name)
  tokens : ∀ cls name, c.tokens.count (cls, name) =
    ((opened.filter (·.grammarName == name)).map
      fun f ↦ (f.tokens maxDepth).countP (·.cls == cls)).sum

namespace Counters

variable {c : Counters} {maxDepth : Int} {opened : List SourceFile}

private theorem counted_empty (maxDepth : Int) : empty.Counted maxDepth [] :=
  ⟨Tally.count_empty, fun cls name ↦ Tally.count_empty (cls, name)⟩

/-- Another file is scanned and counted. -/
theorem Counted.scan (h : c.Counted maxDepth opened) (f : SourceFile) (failure : Option Failure) :
    ((c.countTokens f.grammarName (f.tokens maxDepth)).countScan f.grammarName failure).Counted
      maxDepth (opened ++ [f]) := by
  constructor
  · intro name
    rw [count_countScan, scans_countTokens, h.scans, List.countP_append, List.countP_singleton,
      BEq.comm]
  · intro cls name
    rw [tokens_countScan, count_countTokens, h.tokens, List.filter_append, List.map_append,
      List.sum_append, List.filter_singleton, BEq.comm]
    cases f.grammarName == name with
    | true => simp
    | false => simp

end Counters

/-! ### Views that are up to date -/

namespace CodeView

variable {cv : CodeView}

private theorem highlight_of_valid (h : cv.highlighter.valid = true) : cv.highlight = .ok cv := by
  simp [highlight, Highlighter.updateInvalidated, h]

private theorem setFocused_highlighter (cv : CodeView) (b : Bool) (s : Screen) :
    Yields (cv.setFocused b s) (fun _ ↦ True) (·.1.highlighter = cv.highlighter) := by
  unfold setFocused
  simp only
  split
  · exact (Yields.anything _).bind fun _ _ ↦ .of_ok rfl
  · exact .of_ok rfl

private theorem scrollToCursor_highlighter (cv : CodeView) :
    Yields cv.scrollToCursor (fun _ ↦ True) (·.highlighter = cv.highlighter) :=
  (Yields.anything _).bind fun _ _ ↦ .of_ok rfl

private theorem setCursor_highlighter (cv : CodeView) (c : Cursor) (s : Screen) :
    Yields (cv.setCursor c s) (fun _ ↦ True) (·.1.highlighter = cv.highlighter) :=
  (scrollToCursor_highlighter _).bind fun _ h ↦ (Yields.anything _).bind fun _ _ ↦ .of_ok h

private theorem gotoLine_highlighter (cv : CodeView) (line : Int) (s : Screen) :
    Yields (cv.gotoLine line s) (fun _ ↦ True) (·.1.highlighter = cv.highlighter) :=
  (Yields.anything _).bind fun c _ ↦ cv.setCursor_highlighter c s

private theorem copyText_view (cv : CodeView) (c : Clipboard) (text : ByteArray) (what : String) :
    Yields (cv.copyText c text what) (fun _ ↦ True) (·.view = cv) := by
  refine (Yields.anything _).bind fun (c', error?) _ ↦ ?_
  cases error? with
  | none => exact .of_ok rfl
  | some e => exact .of_ok rfl

private theorem copyLine_view (cv : CodeView) (c : Clipboard) :
    Yields (cv.copyLine c) (fun _ ↦ True) (·.view = cv) :=
  (Yields.anything _).bind fun line _ ↦ cv.copyText_view c line "line"

section

variable (h : cv.highlighter.valid = true)

include h

private theorem tokenAtCursor_of_valid : Yields cv.tokenAtCursor (fun _ ↦ True) (·.1 = cv) := by
  unfold tokenAtCursor
  rw [highlight_of_valid h]
  exact (Yields.anything (cv.cursor.offset cv.buffer)).bind fun _ _ ↦ .of_ok rfl

private theorem status_of_valid : Yields cv.status (fun _ ↦ True) (·.1 = cv) := by
  refine (tokenAtCursor_of_valid h).bind fun (cv', token?) h' ↦ ?_
  cases token? with
  | none => exact .of_ok h'
  | some t => exact .of_ok h'

private theorem copyToken_of_valid (c : Clipboard) :
    Yields (cv.copyToken c) (fun _ ↦ True) (·.view = cv) := by
  refine (tokenAtCursor_of_valid h).bind fun (cv', token?) h' ↦ ?_
  obtain rfl : cv' = cv := h'
  cases token? with
  | none => exact .of_ok rfl
  | some t => exact cv'.copyText_view c t.text t.cls

private theorem nextToken_of_valid : Yields cv.nextToken (fun _ ↦ True) (·.1 = cv) := by
  refine (tokenAtCursor_of_valid h).bind fun (cv', token?) h' ↦ ?_
  cases token? with
  | none => exact .of_ok h'
  | some t => exact .of_ok h'

private theorem prevToken_of_valid : Yields cv.prevToken (fun _ ↦ True) (·.1 = cv) := by
  unfold prevToken
  rw [highlight_of_valid h]
  refine (Yields.anything (cv.cursor.offset cv.buffer)).bind fun pos _ ↦ ?_
  split
  · exact .of_ok rfl
  · split
    · exact .of_ok rfl
    · exact .of_ok rfl

private theorem motion_of_valid (k : KeyPress) :
    Yields (cv.motion k) (fun _ ↦ True) fun r ↦ ∀ p ∈ r, p.1 = cv := by
  have hmoved (m : Except Fault Cursor) :
      Yields (m >>= fun c ↦ pure (some (cv, c))) (fun _ ↦ True) fun r ↦ ∀ p ∈ r, p.1 = cv :=
    (Yields.anything m).bind fun c _ ↦ .of_ok fun p hp ↦ by rw [← Option.some.inj hp]
  unfold motion
  cases k.key with
  | up => exact hmoved _
  | down => exact hmoved _
  | left =>
    simp only
    split
    · exact (prevToken_of_valid h).bind_some
    · exact hmoved _
  | right =>
    simp only
    split
    · exact (nextToken_of_valid h).bind_some
    · exact hmoved _
  | home => exact hmoved (.ok cv.cursor.home)
  | toEnd => exact hmoved _
  | pageUp => exact hmoved _
  | pageDown => exact hmoved _
  | _ => exact fun p hp ↦ nomatch hp

private theorem handleKey_of_valid (k : KeyPress) (s : Screen) :
    Yields (cv.handleKey k s) (fun _ ↦ True) (·.2.1.highlighter = cv.highlighter) := by
  refine (motion_of_valid h k).bind fun r hr ↦ ?_
  cases r with
  | none => exact .of_ok rfl
  | some p =>
    obtain ⟨cv', c⟩ := p
    obtain rfl : cv' = cv := hr _ rfl
    exact (cv'.setCursor_highlighter c s).bind fun _ h' ↦ .of_ok h'

private theorem draw_of_valid (s : Screen) : Yields (cv.draw s) (fun _ ↦ True) (·.1 = cv) := by
  unfold draw
  rw [highlight_of_valid h]
  exact (Yields.anything cv.puts).bind fun ps _ ↦
    (Yields.anything (cv.showCursor (s.putAll ps))).bind fun _ _ ↦ .of_ok rfl

end

end CodeView

namespace Viewer

variable {v u w : Viewer} {b b' : Bool}

/-! ### What opens no file -/

/-- A viewer goes on without opening a file: the scan of its view is the same, and nothing is
counted. A line is asked for behind it or not. -/
structure GoesOn (v u : Viewer) (asking : Bool) : Prop where
  files : u.files = v.files
  maxDepth : u.maxDepth = v.maxDepth
  current : u.current = v.current
  highlighter : u.view.highlighter = v.view.highlighter
  counters : u.counters = v.counters
  prompt : u.prompt.isSome = asking

private theorem GoesOn.trans (h : v.GoesOn u b) (h' : u.GoesOn w b') : v.GoesOn w b' :=
  ⟨h'.files.trans h.files, h'.maxDepth.trans h.maxDepth, h'.current.trans h.current,
    h'.highlighter.trans h.highlighter, h'.counters.trans h.counters, h'.prompt⟩

private theorem counters_withView {cv : CodeView} (h : cv.highlighter = v.view.highlighter) :
    (v.withView cv).counters = v.counters := by
  have hnone : newlyObserved v.view cv = [] := by
    rw [newlyObserved, h]
    exact List.drop_length
  rw [withView, hnone]
  rfl

private theorem goesOn_withView {cv : CodeView} (h : cv.highlighter = v.view.highlighter)
    (s : Screen) :
    v.GoesOn { v.withView cv with screen := s } v.prompt.isSome :=
  ⟨rfl, rfl, rfl, h, counters_withView h, rfl⟩

private theorem focusView_goesOn (v : Viewer) :
    Yields v.focusView (fun _ ↦ True) (v.GoesOn · v.prompt.isSome) :=
  (v.view.setFocused_highlighter true v.screen).bind fun _ h ↦
    .of_ok ⟨rfl, rfl, rfl, h, rfl, rfl⟩

private theorem dropFocus_goesOn (v : Viewer) :
    Yields v.dropFocus (fun _ ↦ True) (v.GoesOn · v.prompt.isSome) := by
  unfold dropFocus
  split
  · exact (v.view.setFocused_highlighter false v.screen).bind fun _ h ↦
      .of_ok ⟨rfl, rfl, rfl, h, rfl, rfl⟩
  · next p _ hp => exact .of_ok ⟨rfl, rfl, rfl, rfl, rfl, by rw [hp]; rfl⟩
  · exact .of_ok ⟨rfl, rfl, rfl, rfl, rfl, rfl⟩

private theorem focusPrompt_goesOn (v : Viewer) (p : LinePrompt) :
    v.GoesOn (v.focusPrompt p) true :=
  ⟨rfl, rfl, rfl, rfl, rfl, rfl⟩

private theorem openPrompt_goesOn (v : Viewer) :
    Yields v.openPrompt (fun _ ↦ True) (v.GoesOn · true) := by
  unfold openPrompt
  exact v.dropFocus_goesOn.bind fun u h ↦ .of_ok (h.trans (u.focusPrompt_goesOn _))

private theorem closePrompt_goesOn (v : Viewer) :
    Yields v.closePrompt (fun _ ↦ True) (v.GoesOn · false) :=
  v.dropFocus_goesOn.bind fun u h ↦ (focusView_goesOn { u with prompt := none }).imp
    fun _ h' ↦ (⟨h.files, h.maxDepth, h.current, h.highlighter, h.counters, rfl⟩ :
      v.GoesOn { u with prompt := none } false).trans h'

private theorem promptKey_goesOn {p : LinePrompt} (k : Key) :
    Yields (v.promptKey p k) (fun _ ↦ True) (v.GoesOn · (k ≠ .enter ∧ k ≠ .escape)) := by
  have hanswer := p.answer_isSome_iff k v.screen
  unfold promptKey
  generalize p.handleKey k v.screen = r at hanswer
  obtain ⟨handled, p', s, answer?⟩ := r
  have hgo : v.GoesOn { v with prompt := some p', screen := s } true :=
    ⟨rfl, rfl, rfl, rfl, rfl, rfl⟩
  cases answer? with
  | none =>
    have hopen : k ≠ .enter ∧ k ≠ .escape :=
      not_or.mp fun hk ↦ Bool.false_ne_true (hanswer.mpr hk)
    rw [decide_eq_true hopen]
    exact .of_ok hgo
  | some answer =>
    have hclosed : ¬ (k ≠ .enter ∧ k ≠ .escape) := fun hopen ↦ not_or.mpr hopen (hanswer.mp rfl)
    rw [decide_eq_false hclosed]
    cases answer with
    | cancelled => exact (closePrompt_goesOn _).imp fun _ h ↦ hgo.trans h
    | chosen line =>
      refine (CodeView.gotoLine_highlighter v.view line s).bind fun r hr ↦ ?_
      have hview := goesOn_withView (v := { v with prompt := some p', screen := s }) hr r.2
      exact (closePrompt_goesOn _).imp fun _ h ↦ (hgo.trans hview).trans h

/-- Everything is fitted into the screen. -/
theorem refit_goesOn (v : Viewer) : Yields v.refit (fun _ ↦ True) (v.GoesOn · v.prompt.isSome) :=
  (CodeView.scrollToCursor_highlighter _).bind fun _ h ↦
    .of_ok ⟨rfl, rfl, rfl, h, counters_withView h, Option.isSome_map⟩

private theorem drawLastRow_goesOn (v : Viewer) :
    Yields v.drawLastRow (fun _ ↦ True) (v.GoesOn · v.prompt.isSome) := by
  unfold drawLastRow
  split
  · next p hp =>
    exact (Yields.anything _).bind fun _ _ ↦ .of_ok ⟨rfl, rfl, rfl, rfl, rfl, by rw [hp]; rfl⟩
  · exact (Yields.anything _).bind fun _ _ ↦ .of_ok ⟨rfl, rfl, rfl, rfl, rfl, rfl⟩

section

variable (h : v.view.highlighter.valid = true)

include h

private theorem updateBar_goesOn : Yields v.updateBar (fun _ ↦ True) (v.GoesOn · v.prompt.isSome) :=
  (CodeView.status_of_valid h).bind fun _ hr ↦
    .of_ok ⟨rfl, rfl, rfl, congrArg _ hr, counters_withView (congrArg _ hr), rfl⟩

/-- Everything is drawn. -/
theorem draw_goesOn : Yields v.draw (fun _ ↦ True) (v.GoesOn · v.prompt.isSome) := by
  refine (updateBar_goesOn h).bind fun v₁ h₁ ↦ ?_
  have hvalid : v₁.view.highlighter.valid = true := by rw [h₁.highlighter, h]
  refine (CodeView.draw_of_valid hvalid v₁.screen.clear).bind fun r hr ↦ ?_
  have h₂ := h₁.trans (goesOn_withView (congrArg _ hr) r.2)
  have hprompt : v₁.prompt.isSome = v.prompt.isSome := h₁.prompt
  rw [hprompt] at h₂
  refine (drawLastRow_goesOn _).imp fun _ h₃ ↦ ?_
  have hlast := h₂.trans h₃
  rwa [h₂.prompt] at hlast

private theorem focusedKey_goesOn (hprompt : v.prompt = none) (k : KeyPress) :
    Yields (v.focusedKey k) (fun _ ↦ True) (v.GoesOn · false) := by
  have hasking : v.prompt.isSome = false := by rw [hprompt]; rfl
  unfold focusedKey
  split
  · refine (CodeView.handleKey_of_valid h k v.screen).bind fun r hr ↦ .of_ok ?_
    have hgo := goesOn_withView hr r.2.2
    rwa [hasking] at hgo
  · next p _ hp => cases hp.symm.trans hprompt
  · exact .of_ok ⟨rfl, rfl, rfl, rfl, rfl, hasking⟩

end

/-! ### What opens a file -/

private theorem observed_update_viewOf (f : SourceFile) (maxDepth : Int) (width height : Nat) :
    (viewOf f maxDepth width height).highlighter.update.1.observed.toList = f.tokens maxDepth := by
  obtain ⟨path, contents, language⟩ := f
  cases language with
  | none => rfl
  | some l =>
    have hobserved : (viewOf ⟨path, contents, some l⟩ maxDepth width
        height).highlighter.update.1.observed =
          #[] ++ (scan l.grammar maxDepth (Buffer.ofBytes contents).bytes).1 := rfl
    rw [hobserved, Array.empty_append, Buffer.bytes_ofBytes]
    rfl

private theorem highlight_viewOf {cv cv' : CodeView} {f : SourceFile} {maxDepth : Int}
    {width height : Nat}
    (h : cv.highlighter = (viewOf f maxDepth width height).highlighter)
    (hcv' : cv.highlight = .ok cv') :
    cv'.highlighter.valid = true ∧ cv'.language = f.language ∧
      cv'.highlighter.observed.toList = f.tokens maxDepth := by
  obtain rfl := CodeView.highlight_eq_ok hcv'
  obtain ⟨-, hlanguage, -, -⟩ := cv.highlighter.updateInvalidated_keeps
  have hfresh : cv.highlighter.language = f.language := by
    rw [h]
    rfl
  have hupdated : cv.highlighter.updateInvalidated.1 =
      (viewOf f maxDepth width height).highlighter.update.1 := by
    rw [h]
    rfl
  refine ⟨?_, hlanguage.trans hfresh, ?_⟩
  · simp only [hupdated]
    unfold Highlighter.update
    split
    · rfl
    · rfl
  · simp only [hupdated]
    exact observed_update_viewOf f maxDepth width height

/-- A viewer tracks a session: it shows the file the session has come to, whose highlighting is up
to date after one scan, and each of the files opened so far was scanned and counted once. -/
structure Tracks (v : Viewer) (files : List SourceFile) (maxDepth : Int) (c : Course)
    (opened : List SourceFile) : Prop where
  files_eq : v.files = files
  maxDepth_eq : v.maxDepth = maxDepth
  current_eq : v.current = c.current
  asking_eq : v.prompt.isSome = c.asking
  upToDate : v.view.highlighter.valid = true
  scanned : ∃ f, files[c.current]? = some f ∧
    v.view.highlighter.observed.toList = f.tokens maxDepth
  counted : v.counters.Counted maxDepth opened

variable {files opened : List SourceFile} {maxDepth : Int} {c : Course} {e : Event}

private theorem Tracks.goesOn (h : v.Tracks files maxDepth c opened) (hgo : v.GoesOn u b) :
    u.Tracks files maxDepth ⟨c.current, b⟩ opened :=
  ⟨hgo.files.trans h.files_eq, hgo.maxDepth.trans h.maxDepth_eq, hgo.current.trans h.current_eq,
    hgo.prompt, hgo.highlighter ▸ h.upToDate, hgo.highlighter ▸ h.scanned,
    hgo.counters ▸ h.counted⟩

/-- A file that is shown is scanned and counted. -/
theorem display_tracks (opened : List SourceFile) (hfiles : v.files = files)
    (hdepth : v.maxDepth = maxDepth) {f : SourceFile} (hf : files[v.current]? = some f)
    (hcounted : v.counters.Counted maxDepth opened) :
    Yields (v.display f) (fun _ ↦ True)
      (·.Tracks files maxDepth ⟨v.current, v.prompt.isSome⟩ (opened ++ [f])) := by
  refine (focusView_goesOn _).bind fun v' hgo ↦ ?_
  have hfresh : v'.view.highlighter = (viewOf f v.maxDepth v.width v.height).highlighter :=
    hgo.highlighter
  cases hcv : v'.view.highlight with
  | error fault => trivial
  | ok cv =>
    obtain ⟨hvalid, hlanguage, hobserved⟩ := highlight_viewOf hfresh hcv
    rw [hdepth] at hobserved
    have hnew : newlyObserved v'.view cv = f.tokens maxDepth := by
      rw [newlyObserved, hobserved, hfresh]
      rfl
    have hcounts : (v'.withView cv).counters =
        v.counters.countTokens f.grammarName (f.tokens maxDepth) := by
      rw [withView, hnew, hlanguage, hgo.counters]
      rfl
    refine .of_ok ⟨hgo.files.trans hfiles, hgo.maxDepth.trans hdepth, hgo.current, hgo.prompt,
      hvalid, ⟨f, hf, hobserved⟩, ?_⟩
    simp only [hcounts]
    exact hcounted.scan f _

/-- Another file is opened. -/
theorem Tracks.switchTo (h : v.Tracks files maxDepth c opened) (i : Nat) :
    Yields (v.switchTo i) (fun _ ↦ True)
      (·.Tracks files maxDepth ⟨i, c.asking⟩ (opened ++ files[i]?.toList)) := by
  unfold Viewer.switchTo
  rw [h.files_eq]
  cases hf : files[i]? with
  | none => trivial
  | some f =>
    refine v.dropFocus_goesOn.bind fun u hgo ↦ ?_
    have hu := h.goesOn hgo
    have hshown := display_tracks (v := { u with current := i }) opened hu.files_eq
      hu.maxDepth_eq hf hu.counted
    have hprompt : u.prompt.isSome = c.asking := hgo.prompt.trans h.asking_eq
    rwa [hprompt] at hshown

/-- A new viewer has opened its first file. -/
theorem new_tracks (files : List SourceFile) (maxDepth : Int) (screen : Screen)
    (clipboard : Clipboard) (log : Log) :
    Yields (new files maxDepth screen clipboard Counters.empty log) (fun _ ↦ True)
      (·.Tracks files maxDepth ⟨0, false⟩ files[0]?.toList) := by
  unfold new
  cases hf : files[0]? with
  | none => trivial
  | some f =>
    apply display_tracks [] rfl rfl
    · exact hf
    · exact Counters.counted_empty maxDepth

/-! ### Events -/

/-- What an event comes to, as the keys ask for it: the session ends, or the viewer that goes on
has opened the file that is asked for, if there is one, and nothing else. -/
structure Obeys (files : List SourceFile) (maxDepth : Int) (c : Course)
    (opened : List SourceFile) (e : Event) (r : Option Viewer) : Prop where
  ends : r.isNone = c.ends e
  tracks : ∀ u ∈ r, u.Tracks files maxDepth (c.next files.length e)
    (opened ++ ((c.opens files.length e).bind (files[·]?)).toList)

private theorem Tracks.obeys (h : v.Tracks files maxDepth c opened) (hgo : v.GoesOn u b)
    (hends : c.ends e = false) (hopens : c.opens files.length e = none) (hasks : c.asks e = b) :
    Obeys files maxDepth c opened e (some u) := by
  refine ⟨hends.symm, fun u' hu' ↦ ?_⟩
  rw [← Option.some.inj hu', Course.next, hopens, hasks]
  exact (List.append_nil opened).symm ▸ h.goesOn hgo

private theorem Tracks.obeys_goesOn (h : v.Tracks files maxDepth c opened) {x : Except Fault Viewer}
    (hx : Yields x (fun _ ↦ True) (v.GoesOn · b)) (hends : c.ends e = false)
    (hopens : c.opens files.length e = none) (hasks : c.asks e = b) :
    Yields (x >>= fun u ↦ pure (some u)) (fun _ ↦ True) (Obeys files maxDepth c opened e) :=
  hx.bind fun _ hgo ↦ .of_ok (h.obeys hgo hends hopens hasks)

private theorem Tracks.obeys_switchTo (h : v.Tracks files maxDepth c opened) {i : Nat}
    (hends : c.ends e = false) (hopens : c.opens files.length e = some i)
    (hasks : c.asks e = c.asking) :
    Yields (v.switchTo i >>= fun u ↦ pure (some u)) (fun _ ↦ True)
      (Obeys files maxDepth c opened e) := by
  refine (h.switchTo i).bind fun u hu ↦ .of_ok ⟨hends.symm, fun u' hu' ↦ ?_⟩
  rw [← Option.some.inj hu', Course.next, hopens, hasks]
  exact hu

private theorem afterCopy_goesOn {r : CopyResult} (h : r.view = v.view) :
    v.GoesOn (v.afterCopy r) v.prompt.isSome :=
  ⟨rfl, rfl, rfl, congrArg _ h, counters_withView (congrArg _ h), rfl⟩

/-- While no line is asked for, every key is obeyed. -/
theorem Tracks.viewKey (h : v.Tracks files maxDepth c opened) (hasking : c.asking = false)
    (k : KeyPress) :
    Yields (v.viewKey k) (fun _ ↦ True) (Obeys files maxDepth c opened (.key k)) := by
  have hprompt : v.prompt = none := by
    rw [← Option.not_isSome_iff_eq_none, h.asking_eq, hasking]
    exact Bool.false_ne_true
  have hcopied {r : CopyResult} (hr : r.view = v.view) : v.GoesOn (v.afterCopy r) false := by
    have hgo := afterCopy_goesOn hr
    rwa [hprompt] at hgo
  unfold Viewer.viewKey
  simp only
  rw [h.files_eq, h.current_eq]
  split
  · next hk =>
    exact ⟨by simp [Course.ends, hk, hasking], fun u hu ↦ nomatch hu⟩
  · next hk =>
    exact ⟨by simp [Course.ends, hk, hasking], fun u hu ↦ nomatch hu⟩
  · next hk =>
    exact h.obeys_switchTo (by simp [Course.ends, hk]) (by simp [Course.opens, hk, hasking])
      (by simp [Course.asks, hk, hasking])
  · next hk =>
    exact h.obeys_switchTo (by simp [Course.ends, hk]) (by simp [Course.opens, hk, hasking])
      (by simp [Course.asks, hk, hasking])
  · next hk =>
    exact (CodeView.copyToken_of_valid h.upToDate _).bind fun r hr ↦ .of_ok <|
      h.obeys (hcopied hr) (by simp [Course.ends, hk]) (by simp [Course.opens, hk])
        (by simp [Course.asks, hk, hasking])
  · next hk =>
    exact (CodeView.copyLine_view _ _).bind fun r hr ↦ .of_ok <|
      h.obeys (hcopied hr) (by simp [Course.ends, hk]) (by simp [Course.opens, hk])
        (by simp [Course.asks, hk, hasking])
  · next hk =>
    exact h.obeys_goesOn v.openPrompt_goesOn (by simp [Course.ends, hk])
      (by simp [Course.opens, hk]) (by simp [Course.asks, hk, hasking])
  · next hescape hquit hnext hprevious htoken hline hgoto =>
    have hne {k' : Key} (h' : k.key = k' → False) : (k.key = k') = False := eq_false h'
    exact h.obeys_goesOn (focusedKey_goesOn h.upToDate hprompt k)
      (by simp [Course.ends, hne hescape, hne hquit])
      (by simp [Course.opens, hne hnext, hne hprevious])
      (by simp [Course.asks, hasking, hne hgoto])

/-- Every event is obeyed. -/
theorem Tracks.step (h : v.Tracks files maxDepth c opened) (e : Event) :
    Yields (v.step e) (fun _ ↦ True) (Obeys files maxDepth c opened e) := by
  cases e with
  | resize size =>
    have hsized {s : Screen} : ({ v with screen := s } : Viewer).Tracks files maxDepth c opened :=
      ⟨h.files_eq, h.maxDepth_eq, h.current_eq, h.asking_eq, h.upToDate, h.scanned, h.counted⟩
    exact hsized.obeys_goesOn (refit_goesOn _) rfl rfl h.asking_eq.symm
  | key k =>
    have hread : ({ v with message := "" } : Viewer).Tracks files maxDepth c opened :=
      ⟨h.files_eq, h.maxDepth_eq, h.current_eq, h.asking_eq, h.upToDate, h.scanned, h.counted⟩
    have hasking := h.asking_eq
    unfold Viewer.step
    simp only
    split
    · next p hp =>
      rw [hp, Option.isSome_some] at hasking
      exact hread.obeys_goesOn (promptKey_goesOn k.key) (by simp [Course.ends, ← hasking])
        (by simp [Course.opens, ← hasking]) (by simp [Course.asks, ← hasking])
    · next hp =>
      rw [hp, Option.isSome_none] at hasking
      exact hread.viewKey hasking.symm k

/-- Drawing opens no file. -/
theorem Tracks.draw (h : v.Tracks files maxDepth c opened) :
    Yields v.draw (fun _ ↦ True) (·.Tracks files maxDepth c opened) := by
  refine (draw_goesOn h.upToDate).imp fun w hgo ↦ ?_
  have hw := h.goesOn hgo
  rwa [h.asking_eq] at hw

end Viewer

namespace Course

variable {files : List SourceFile} {c : Course} {e : Event}

private theorem openings_of_ends (h : c.ends e = true) (events : List Event) :
    openings files c (e :: events) = [] := by
  rw [openings, if_pos h]

private theorem openings_of_not_ends (h : c.ends e = false) (events : List Event) :
    openings files c (e :: events) =
      ((c.opens files.length e).bind (files[·]?)).toList ++
        openings files (c.next files.length e) events := by
  rw [openings, if_neg (by simp [h])]

private theorem openings_farewell (files : List SourceFile) (c : Course) :
    openings files c Session.farewell = [] := by
  obtain ⟨current, asking⟩ := c
  cases asking with
  | true => rfl
  | false => rfl

private theorem openings_append_farewell (files : List SourceFile) (c : Course)
    (events : List Event) :
    openings files c (events ++ Session.farewell) = openings files c events := by
  induction events generalizing c with
  | nil => exact openings_farewell files c
  | cons e events ih =>
    rw [List.cons_append]
    cases hends : c.ends e with
    | true => rw [openings_of_ends hends, openings_of_ends hends]
    | false => rw [openings_of_not_ends hends, openings_of_not_ends hends, ih]

end Course

namespace Session

/-! ### Whole sessions -/

section

variable {files opened : List SourceFile} {maxDepth : Int} {c : Course} {v : Viewer}
  {events : List Event}

/-- Whenever a session waits, the files that were opened on the way were scanned and counted. -/
theorem tracks_waiting (h : v.Tracks files maxDepth c opened) {i : Nat} {w : Viewer}
    (hw : (waiting v events)[i]? = some w) :
    w.Tracks files maxDepth (c.after files.length (events.take i))
      (opened ++ Course.openings files c (events.take i)) := by
  induction events generalizing v c opened i with
  | nil =>
    unfold waiting at hw
    split at hw
    · cases hw
    · next w' hdraw =>
      obtain rfl : w = w' := List.mem_singleton.mp (List.mem_of_getElem? hw)
      rw [List.take_nil, Course.openings, List.append_nil]
      exact h.draw.ok hdraw
  | cons e events ih =>
    cases i with
    | zero =>
      rw [List.take_zero, Course.openings, List.append_nil]
      exact h.draw.ok (draw_of_waiting_zero hw)
    | succ i =>
      unfold waiting at hw
      split at hw
      · cases hw
      · next w' hdraw =>
        split at hw
        · next next hstep =>
          have hobeys := ((h.draw.ok hdraw).step e).ok hstep
          rw [List.take_succ_cons, Course.openings_of_not_ends hobeys.ends.symm,
            ← List.append_assoc]
          exact ih (hobeys.tracks next rfl) hw
        · cases hw

/-- Once a session has finished, the files its events have opened were scanned and counted. -/
theorem counted_run (h : v.Tracks files maxDepth c opened)
    (hfinished : (run v events).outcome = .finished) :
    (run v events).counters.Counted maxDepth (opened ++ Course.openings files c events) := by
  induction events generalizing v c opened with
  | nil =>
    unfold run at hfinished ⊢
    cases hdraw : v.draw with
    | error f =>
      rw [hdraw] at hfinished
      cases hfinished
    | ok w =>
      rw [Course.openings, List.append_nil]
      exact (h.draw.ok hdraw).counted
  | cons e events ih =>
    unfold run at hfinished ⊢
    cases hdraw : v.draw with
    | error f =>
      rw [hdraw] at hfinished
      cases hfinished
    | ok w =>
      have hw := h.draw.ok hdraw
      rw [hdraw] at hfinished
      simp only at hfinished ⊢
      cases hstep : w.step e with
      | error f =>
        rw [hstep] at hfinished
        cases hfinished
      | ok next? =>
        have hobeys := (hw.step e).ok hstep
        rw [hstep] at hfinished
        cases next? with
        | none =>
          rw [Course.openings_of_ends hobeys.ends.symm, List.append_nil]
          exact hw.counted
        | some next =>
          rw [Course.openings_of_not_ends hobeys.ends.symm, ← List.append_assoc]
          exact ih (hobeys.tracks next rfl) hfinished

end

/-- Every file that is opened is scanned and counted once. Whatever the keys and the changes of size
are, whenever a session waits for the next event, and at its end, each grammar has as many scans as
files of it were opened, the first one and those that Ctrl+N and Ctrl+P have asked for, and as many
tokens of each class as the scans of these files have with the depth that was set. Nothing else
scans or counts: whenever the session waits, the view has nothing to scan, and the tokens it has
observed are those of one scan of the file it shows, be there an error in it or not. -/
theorem openings_counted_once (screen : Screen) (files : List SourceFile) (maxDepth : Int)
    (clipboard : Clipboard) (events : List Event) :
    (∀ (i : Nat) (w : Viewer), (states screen files maxDepth clipboard events)[i]? = some w →
      w.counters.Counted maxDepth
        (files[0]?.toList ++ Course.openings files ⟨0, false⟩ ((events ++ farewell).take i)) ∧
      w.view.highlight = .ok w.view ∧
      ∃ f, files[w.current]? = some f ∧
        w.view.highlighter.observed.toList = f.tokens maxDepth) ∧
    ((start (.ok screen) files maxDepth clipboard events).outcome = .finished →
      (start (.ok screen) files maxDepth clipboard events).counters.Counted maxDepth
        (files[0]?.toList ++ Course.openings files ⟨0, false⟩ events)) := by
  have hnew := Viewer.new_tracks files maxDepth screen clipboard.choose.1
    [clipboardReport clipboard.choose.2]
  constructor
  · intro i w hw
    unfold states at hw
    split at hw
    · cases hw
    · next v hopened =>
      have h := tracks_waiting (hnew.ok hopened) hw
      refine ⟨h.counted, CodeView.highlight_of_valid h.upToDate, ?_⟩
      rw [h.current_eq]
      exact h.scanned
  · intro hfinished
    unfold start at hfinished ⊢
    simp only at hfinished ⊢
    split at hfinished
    · cases hfinished
    · next v hopened =>
      rw [← Course.openings_append_farewell]
      exact counted_run (hnew.ok hopened) hfinished

/-- The prompt swallows no opening, and the session ends without another one. -/
example (g : CompiledGrammar) :
    Course.openings (twoFiles g) ⟨0, false⟩ growing = [⟨"b", ⟨#[255, 10]⟩, none⟩] := rfl

end Session

end CodeViewer
