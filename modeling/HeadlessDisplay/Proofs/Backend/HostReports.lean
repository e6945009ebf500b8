import HeadlessDisplay.Output.HeapStorage
import HeadlessDisplay.Proofs.Backend.Chronicle

/-!
# What the host is told over a whole run

A frame is presented of an output only if the renderer was called for it since the last one, and
nothing is heard of an output after the host was told that it is gone. Both are said of one entry of
a chronicle and those before it (`Happening.MayFollow`); a chronicle is `Regular` if it is so of
each entry. One operation names each output once at most, so its entries do not depend on each other
(`Regular.append`), and a run keeps the chronicle regular if no name of an output is used twice
(`recounts_run`).

`host_reports` draws the conclusions: frames and calls of the renderer for one output by number and
by order, and that what the host is told of the removal of outputs is what became of them.
-/

set_option autoImplicit false
set_option relaxedAutoImplicit false

namespace HeadlessDisplay

namespace Happening

/-- A frame of the output is presented. -/
def presentsOf (name : String) (entry : Happening) : Bool :=
  entry.output = name && entry.presents

/-- The renderer is called for the output. -/
def rendersFor (name : String) : Happening → Bool
  | .told _ => false
  | .rendered output _ => output = name

theorem removed?_eq_some {entry : Happening} {name : String} :
    entry.removed? = some name ↔ entry = .told (.removed name) := by
  rcases entry with ⟨_ | _⟩ | _ <;> simp [removed?, HostEvent.removed?]

end Happening

/-! ### Regular chronicles -/

/-- The renderer was called for the output, and no frame of it was presented since. -/
def Owes (history : List Happening) (name : String) : Prop :=
  ∃ early call late, history = early ++ .rendered name call :: late ∧
    ∀ entry ∈ late, entry.presentsOf name = false

namespace Owes

variable {history added : List Happening} {name : String}

/-- What is owed is still owed if no frame is presented. -/
theorem append (howes : Owes history name)
    (hadded : ∀ entry ∈ added, entry.presentsOf name = false) : Owes (history ++ added) name := by
  obtain ⟨early, call, late, rfl, hlate⟩ := howes
  refine ⟨early, call, late ++ added, by simp, ?_⟩
  exact List.forall_mem_append.mpr ⟨hlate, hadded⟩

/-- A call of the renderer without a frame after it is owed. -/
theorem of_rendered {call : RenderCall} (hcall : .rendered name call ∈ added)
    (hadded : ∀ entry ∈ added, entry.presentsOf name = false) : Owes (history ++ added) name := by
  obtain ⟨early, late, rfl⟩ := List.append_of_mem hcall
  refine ⟨history ++ early, call, late, by simp, fun entry hentry ↦ ?_⟩
  exact hadded entry (List.mem_append_right _ (.tail _ hentry))

/-- What is owed after a frame was rendered after it. -/
theorem exists_rendered {early between : List Happening} {frame : Happening}
    (hframe : frame.presentsOf name = true) (howes : Owes (early ++ frame :: between) name) :
    ∃ call, .rendered name call ∈ between := by
  obtain ⟨first, call, last, heq, hlast⟩ := howes
  rcases List.append_eq_append_iff.mp heq with ⟨middle, hfirst, hrest⟩ | ⟨middle, hearly, hrest⟩
  · cases middle with
    | nil =>
      obtain ⟨rfl, -⟩ := List.cons.inj hrest
      exact absurd hframe (by simp [Happening.presentsOf, Happening.presents])
    | cons head tail =>
      obtain ⟨-, rfl⟩ := List.cons.inj hrest
      exact ⟨call, List.mem_append_right _ (.head _)⟩
  · have hlate : frame ∈ last := by
      cases middle with
      | nil =>
        obtain ⟨rfl, -⟩ := List.cons.inj hrest
        exact absurd hframe (by simp [Happening.presentsOf, Happening.presents])
      | cons head tail =>
        obtain ⟨-, rfl⟩ := List.cons.inj hrest
        exact List.mem_append_right _ (.head _)
    rw [hlast frame hlate] at hframe
    exact absurd hframe Bool.false_ne_true

/-- An entry that is not a call of the renderer makes nothing owed. -/
theorem of_snoc {entry : Happening} (hentry : entry.rendersFor name = false)
    (howes : Owes (history ++ [entry]) name) : Owes history name := by
  obtain ⟨early, call, late, heq, hlate⟩ := howes
  rcases List.eq_nil_or_concat late with rfl | ⟨front, last, rfl⟩
  · obtain ⟨-, hlast⟩ := List.append_inj' heq rfl
    rw [List.singleton_inj.mp hlast] at hentry
    simp [Happening.rendersFor] at hentry
  · rw [List.concat_eq_append] at heq hlate
    rw [← List.cons_append, ← List.append_assoc] at heq
    exact ⟨early, call, front, (List.append_inj' heq rfl).1,
      fun entry hentry ↦ hlate entry (List.mem_append_left _ hentry)⟩

end Owes

/-- What may happen after a history. -/
structure Happening.MayFollow (entry : Happening) (history : List Happening) : Prop where
  /-- The output is not gone. -/
  not_gone : .told (.removed entry.output) ∉ history
  /-- A frame is presented only if it is owed. -/
  owed : entry.presents → Owes history entry.output

/-- Each entry may follow those before it. -/
inductive Regular : List Happening → Prop
  | nil : Regular []
  | snoc {history : List Happening} {entry : Happening} (hregular : Regular history)
      (hfollows : entry.MayFollow history) : Regular (history ++ [entry])

/-- An entry about another output does not matter. -/
theorem Happening.MayFollow.snoc {entry other : Happening} {history : List Happening}
    (hfollows : entry.MayFollow history) (hother : other.output ≠ entry.output) :
    entry.MayFollow (history ++ [other]) where
  not_gone := by
    intro hgone
    rcases List.mem_append.mp hgone with hearlier | hlast
    · exact hfollows.not_gone hearlier
    · rw [← List.mem_singleton.mp hlast] at hother
      exact hother rfl
  owed := by
    intro hpresents
    apply (hfollows.owed hpresents).append
    simp [Happening.presentsOf, hother]

namespace Regular

variable {history : List Happening}

/-- Entries about different outputs may come in one go. -/
theorem append {added : List Happening} (hregular : Regular history)
    (hdistinct : (added.map Happening.output).Nodup)
    (hfollow : ∀ entry ∈ added, entry.MayFollow history) : Regular (history ++ added) := by
  induction added generalizing history with
  | nil => rwa [List.append_nil]
  | cons entry rest ih =>
    obtain ⟨hothers, hrest⟩ := List.nodup_cons.mp hdistinct
    rw [List.append_cons]
    apply ih (hregular.snoc (hfollow entry (.head _))) hrest
    intro other hother
    apply (hfollow other (.tail _ hother)).snoc
    intro hsame
    exact hothers (hsame ▸ List.mem_map_of_mem hother)

theorem mayFollow (hregular : Regular history) {early late : List Happening} {entry : Happening}
    (hsplit : history = early ++ entry :: late) : entry.MayFollow early := by
  induction hregular generalizing late with
  | nil => simp at hsplit
  | @snoc history last hregular hfollows ih =>
    rcases List.eq_nil_or_concat late with rfl | ⟨front, final, rfl⟩
    · obtain ⟨rfl, hlast⟩ := List.append_inj' hsplit rfl
      exact List.singleton_inj.mp hlast ▸ hfollows
    · rw [List.concat_eq_append, ← List.cons_append, ← List.append_assoc] at hsplit
      exact ih (List.append_inj' hsplit rfl).1

/-- Of every output there are no more frames than calls of the renderer, and fewer while one is
owed. -/
theorem countP_presentsOf_le (hregular : Regular history) (name : String) :
    history.countP (·.presentsOf name) ≤ history.countP (·.rendersFor name) ∧
      (Owes history name →
        history.countP (·.presentsOf name) < history.countP (·.rendersFor name)) := by
  induction hregular with
  | nil =>
    refine ⟨Nat.le_refl _, ?_⟩
    rintro ⟨early, call, late, heq, -⟩
    simp at heq
  | @snoc history entry hregular hfollows ih =>
    obtain ⟨hle, hlt⟩ := ih
    simp only [List.countP_append, List.countP_singleton]
    cases hframe : entry.presentsOf name with
    | true =>
      obtain ⟨hname, hpresents⟩ : entry.output = name ∧ entry.presents = true := by
        simpa [Happening.presentsOf] using hframe
      have hfewer := hlt (hname ▸ hfollows.owed hpresents)
      refine ⟨by simp; omega, fun howes ↦ ?_⟩
      obtain ⟨call, hcall⟩ := howes.exists_rendered hframe
      exact absurd hcall List.not_mem_nil
    | false =>
      cases hrenders : entry.rendersFor name with
      | true => simp; omega
      | false => simpa using ⟨hle, fun howes ↦ hlt (howes.of_snoc hrenders)⟩

/-- The host is told only once that an output is gone. -/
theorem nodup_removed (hregular : Regular history) :
    (history.filterMap Happening.removed?).Nodup := by
  induction hregular with
  | nil => exact List.nodup_nil
  | @snoc history entry hregular hfollows ih =>
    cases hentry : entry.removed? with
    | none => simpa [hentry] using ih
    | some name =>
      obtain rfl := Happening.removed?_eq_some.mp hentry
      have hnew : name ∉ history.filterMap Happening.removed? := by
        intro hold
        obtain ⟨earlier, hearlier, hsame⟩ := List.mem_filterMap.mp hold
        obtain rfl := Happening.removed?_eq_some.mp hsame
        exact hfollows.not_gone hearlier
      simpa [List.nodup_append', hentry] using ⟨ih, by simpa using hnew⟩

end Regular

/-! ### The chronicle of a run is regular -/

variable {δ : Type} [FramebufferDevice δ]

/-- What is known of a chronicle and of the stage that it has led to, where outputs of the given
names were added. -/
structure Stage.Recounts (stage : Stage δ) (history : List Happening) (joined : List String) :
    Prop where
  regular : Regular history
  names : (stage.backend.outputs.map Output.name).Sublist joined
  named : ∀ entry ∈ history, entry.output ∈ joined
  gone : ∀ name, .told (.removed name) ∈ history → name ∉ stage.backend.outputs.map Output.name
  /-- A frame is owed of an output whose timer is armed. -/
  owed : ∀ output ∈ stage.backend.outputs, output.timer.isArmed → Owes history output.name

namespace Stage

variable {stage : Stage δ} {history : List Happening} {joined : List String}

theorem recounts_step (hrecounts : stage.Recounts history joined) {step : BackendStep δ}
    (hdistinct : (joined ++ stage.joins step).Nodup) :
    (stage.step step).2.Recounts (history ++ stage.happenings step)
      (joined ++ stage.joins step) := by
  obtain ⟨hjoined, -, hapart⟩ := List.nodup_append'.mp hdistinct
  have hnames := hrecounts.names.nodup hjoined
  have hadds := stage.adds_step step hnames
  constructor
  · apply hrecounts.regular.append (hadds.names.nodup hnames)
    intro entry hentry
    constructor
    · intro hgone
      exact hrecounts.gone _ hgone (hadds.names.subset (List.mem_map_of_mem hentry))
    · intro hpresents
      obtain ⟨output, houtput, hname, harmed⟩ := hadds.due entry hentry hpresents
      exact hname ▸ hrecounts.owed output houtput harmed
  · exact hadds.kept.trans (hrecounts.names.append_right _)
  · intro entry hentry
    rcases List.mem_append.mp hentry with hearlier | hnow
    · exact List.mem_append_left _ (hrecounts.named entry hearlier)
    · exact List.mem_append_left _
        (hrecounts.names.subset (hadds.names.subset (List.mem_map_of_mem hnow)))
  · intro name hgone
    rcases List.mem_append.mp hgone with hearlier | hnow
    · intro hafter
      rcases List.mem_append.mp (hadds.kept.subset hafter) with hbefore | hnew
      · exact hrecounts.gone name hearlier hbefore
      · exact hapart (hrecounts.named _ hearlier) hnew
    · exact hadds.removed name hnow
  · intro output houtput harmed
    have hunfired : ∀ entry ∈ stage.happenings step, entry.presentsOf output.name = false := by
      intro entry hentry
      have hother := hadds.unfired output houtput harmed entry hentry
      by_contra hframe
      obtain ⟨hname, hpresents⟩ : entry.output = output.name ∧ entry.presents = true := by
        simpa [Happening.presentsOf] using hframe
      exact hother hpresents hname
    rcases hadds.armed output houtput harmed with ⟨call, hcall⟩ | ⟨before, hbefore, hname, hearlier⟩
    · exact Owes.of_rendered hcall hunfired
    · exact (hname ▸ hrecounts.owed before hbefore hearlier).append hunfired

theorem recounts_run (hrecounts : stage.Recounts history joined) {steps : List (BackendStep δ)}
    (hdistinct : (joined ++ stage.joined steps).Nodup) :
    (stage.run steps).Recounts (history ++ stage.chronicle steps)
      (joined ++ stage.joined steps) := by
  induction steps generalizing stage history joined with
  | nil => simpa [chronicle, Stage.joined, along, run] using hrecounts
  | cons step rest ih =>
    have hchronicle : history ++ stage.chronicle (step :: rest) =
        history ++ stage.happenings step ++ (stage.step step).2.chronicle rest :=
      (List.append_assoc ..).symm
    have hjoined : joined ++ stage.joined (step :: rest) =
        joined ++ stage.joins step ++ (stage.step step).2.joined rest :=
      (List.append_assoc ..).symm
    rw [hchronicle, hjoined]
    rw [hjoined] at hdistinct
    exact ih (recounts_step hrecounts (List.Nodup.of_append_left hdistinct)) hdistinct

omit [FramebufferDevice δ] in
theorem recounts_start (source : ScreenSource) (renderer : Renderer) (host : Host) :
    (Stage.start source renderer host : Stage δ).Recounts [] [] :=
  ⟨.nil, .slnil, by simp, by simp, fun _ houtput ↦ absurd houtput List.not_mem_nil⟩

end Stage

/-- In every run of a backend whose outputs have different names, none of them used again, whatever
the devices, the source and the renderer answer,

* what the host is told and the calls of the renderer are the entries of the chronicle,
* as many frames are presented as timers are said to have fired, the host counts as many, and
  beginning with the outputs adds none,
* of every output no more frames are presented than there are calls of the renderer for it, and
  between two of them there is such a call,
* the host is told once at most that an output is gone, only when the session is activated, and
  then of exactly the outputs that could not be brought back,
* nothing concerns an output any more after the host was told that it is gone, or after the backend
  was shut down. -/
theorem host_reports (source : ScreenSource) (renderer : Renderer) (host : Host)
    (steps : List (BackendStep δ))
    (hdistinct : ((Stage.start source renderer host).joined steps).Nodup) :
    let start : Stage δ := .start source renderer host
    let reached := start.run steps
    let chronicle := start.chronicle steps
    (reached.host.events = host.events ++ chronicle.filterMap Happening.event? ∧
      reached.renderer.calls = renderer.calls ++ chronicle.filterMap Happening.call?) ∧
    (chronicle.countP Happening.presents = (start.fired steps).sum ∧
      reached.host.frames = host.frames + (start.fired steps).sum ∧
      (reached.step .startRepaintLoop).2.host.frames = reached.host.frames) ∧
    (∀ name, chronicle.countP (·.presentsOf name) ≤ chronicle.countP (·.rendersFor name)) ∧
    (∀ name early between late first second,
      chronicle = early ++ .told (.finished name first .none) :: between ++
        .told (.finished name second .none) :: late →
      ∃ call, .rendered name call ∈ between) ∧
    (chronicle.filterMap Happening.removed?).Nodup ∧
    (∀ early step late, steps = early ++ step :: late →
      ((start.run early).happenings step).filterMap Happening.removed? =
        (start.run early).failing step) ∧
    (∀ name early late, chronicle = early ++ .told (.removed name) :: late →
      ∀ entry ∈ late, entry.output ≠ name) ∧
    ∀ early late, steps = early ++ .shutdown :: late → ∀ name ∈ start.joined early,
      ∀ entry ∈ (start.run (early ++ [.shutdown])).chronicle late, entry.output ≠ name := by
  intro start reached chronicle
  have hregular : Regular chronicle := by
    have hrun := Stage.recounts_run (Stage.recounts_start source renderer host) hdistinct
    exact hrun.regular
  refine ⟨⟨start.events_run steps, start.calls_run steps⟩, ⟨start.presents_chronicle steps,
    start.frames_run steps, reached.frames_step .startRepaintLoop⟩,
    fun name ↦ (hregular.countP_presentsOf_le name).1, ?_, hregular.nodup_removed, ?_, ?_, ?_⟩
  · intro name early between late first second hsplit
    have hfollows := hregular.mayFollow hsplit
    apply (hfollows.owed rfl).exists_rendered
    simp [Happening.presentsOf, Happening.presents, Happening.output, HostEvent.presents,
      HostEvent.output]
  · intro early step late hsplit
    exact (start.run early).removed_happenings step
  · intro name early late hsplit entry hentry hsame
    obtain ⟨front, rest, rfl⟩ := List.append_of_mem hentry
    have hfollows : entry.MayFollow (early ++ .told (.removed name) :: front) :=
      hregular.mayFollow (by rw [hsplit, List.append_assoc]; rfl)
    apply hfollows.not_gone
    rw [hsame]
    exact List.mem_append_right _ (.head _)
  · rintro early late rfl name hname entry hentry rfl
    have hlater := Stage.output_mem_of_chronicle hentry
    have hshut : start.run (early ++ [.shutdown]) = ((start.run early).step .shutdown).2 := by
      simp only [Stage.run, List.foldl_append, List.foldl_cons, List.foldl_nil]
    have hempty : ((start.run early).step .shutdown).2.backend.outputs = [] := rfl
    rw [hshut, hempty, List.map_nil, List.nil_append] at hlater
    have hjoined : start.joined (early ++ .shutdown :: late) =
        start.joined early ++ ((start.run early).step .shutdown).2.joined late :=
      Stage.along_append Stage.joins start early (.shutdown :: late)
    rw [hjoined] at hdistinct
    exact (List.nodup_append'.mp hdistinct).2.2 hname hlater

/-- Two outputs are painted and their frames presented; one of them does not come back after a
switch away, and the timer of the other fires once more before the end. -/
theorem reports_of_two_outputs :
    let source : ScreenSource :=
      ⟨fun asked ↦ if asked = 2 then .error "unplugged" else .ok (.withSize 2 1), 0⟩
    let renderer := Renderer.solid Renderer.defaultColor fun _ ↦ none
    let start : Stage HeapStorage := .start source renderer (.atTime 0)
    let steps := [.addOutput "left" HeapStorage.working, .addOutput "right" HeapStorage.working,
      .startRepaintLoop, .repaintPending 0, .dispatchTimers 16000, .notifySession false,
      .notifySession true, .repaintPending 20000, .dispatchTimers 36000, .shutdown]
    let chronicle := start.chronicle steps
    start.fired steps = [2, 1] ∧ chronicle.countP Happening.presents = 3 ∧
      (start.run steps).host.frames = 3 ∧
      chronicle.countP (·.presentsOf "left") = 1 ∧
      chronicle.countP (·.presentsOf "right") ≤ chronicle.countP (·.rendersFor "right") ∧
      chronicle.filterMap Happening.removed? = ["left"] := by
  intro source renderer start steps chronicle
  have hdistinct : (start.joined steps).Nodup := by decide +kernel
  have hfired : start.fired steps = [2, 1] := by decide +kernel
  obtain ⟨-, ⟨hpresents, hframes, -⟩, hrendered, -⟩ :=
    host_reports source renderer (.atTime 0) steps hdistinct
  refine ⟨hfired, ?_, ?_, by decide +kernel, hrendered "right", by decide +kernel⟩
  · rw [hfired] at hpresents
    exact hpresents
  · rw [hfired] at hframes
    exact hframes

end HeadlessDisplay
