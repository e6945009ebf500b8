import HeadlessDisplay.Proofs.Backend.Comeback
import HeadlessDisplay.Proofs.Backend.Passes
import HeadlessDisplay.Proofs.Output.DamageKept

/-!
# The chronicle of a run

What a backend asks of its surroundings in a run, in order: what it tells the host, and the calls of
the renderer, each with the output that it was made for. The host keeps what it was told and the
renderer the calls made on it, but neither knows of the other, and the renderer does not know of
outputs; `Stage.chronicle` puts the two together. That it is no more and no less than what the host
and the renderer keep is `events_run` and `calls_run`.

`Stage.Tells` says what the host is told in one operation, and `Stage.Adds` what the operation adds
to a chronicle as far as names and timers are concerned: every output is named once at most, and a
timer that is armed afterwards was armed before and did not fire, or the renderer was called.
-/

set_option autoImplicit false
set_option relaxedAutoImplicit false

namespace HeadlessDisplay

/-! ### What happens -/

/-- Something that a backend asks of its surroundings. -/
inductive Happening
  /-- The host is told something. -/
  | told (event : HostEvent)
  /-- The renderer is called for an output. -/
  | rendered (output : String) (call : RenderCall)

/-- The event is a frame that was presented. -/
def HostEvent.presents : HostEvent → Bool
  | .finished _ _ flags => flags = .none
  | .removed _ => false

/-- The output that is gone. -/
def HostEvent.removed? : HostEvent → Option String
  | .finished .. => none
  | .removed output => some output

namespace Happening

/-- The output that is concerned. -/
def output : Happening → String
  | .told event => event.output
  | .rendered output _ => output

/-- What the host is told. -/
def event? : Happening → Option HostEvent
  | .told event => some event
  | .rendered .. => none

/-- How the renderer is called. -/
def call? : Happening → Option RenderCall
  | .told _ => none
  | .rendered _ call => some call

/-- The output whose removal the host is told of. -/
def removed? : Happening → Option String
  | .told event => event.removed?
  | .rendered .. => none

/-- The host is told of a frame that was presented. -/
def presents : Happening → Bool
  | .told event => event.presents
  | .rendered .. => false

end Happening

variable {δ : Type} [FramebufferDevice δ]

/-- The calls of the renderer at a repaint of the pending damage. -/
def Output.renderings (output : Output δ) (renderer : Renderer) (now : Nat) : List Happening :=
  ((output.repaintPending renderer now).2.2.calls.drop renderer.calls.length).map
    (.rendered output.name)

/-- The calls of the renderer in a pass of repaints. -/
def Backend.renderings (now : Nat) : List (Output δ) → Renderer → List Happening
  | [], _ => []
  | output :: rest, renderer =>
    if output.state = .mapped ∧ output.hasPendingDamage then
      output.renderings renderer now ++
        renderings now rest (output.repaintPending renderer now).2.2
    else renderings now rest renderer

namespace Stage

/-- What is seen at each operation of a run, in order. -/
def along {α : Type} (seen : Stage δ → BackendStep δ → List α) :
    Stage δ → List (BackendStep δ) → List α
  | _, [] => []
  | stage, step :: rest => seen stage step ++ along seen (stage.step step).2 rest

/-- What the host is told in one operation. -/
def told (stage : Stage δ) (step : BackendStep δ) : List HostEvent :=
  (stage.step step).2.host.events.drop stage.host.events.length

/-- The calls of the renderer in one operation. -/
def renderings (stage : Stage δ) : BackendStep δ → List Happening
  | .repaintPending now => Backend.renderings now stage.backend.outputs stage.renderer
  | _ => []

/-- What happens in one operation. -/
def happenings (stage : Stage δ) (step : BackendStep δ) : List Happening :=
  (stage.told step).map .told ++ stage.renderings step

/-- What happens in a run. -/
def chronicle : Stage δ → List (BackendStep δ) → List Happening :=
  along happenings

/-- The name of the output that an operation adds. -/
def joins (stage : Stage δ) : BackendStep δ → List String
  | .addOutput name device =>
    match (stage.backend.addOutput name device stage.source).1 with
    | .ok () => [name]
    | .error _ => []
  | _ => []

/-- The names of the outputs that are added in a run. -/
def joined : Stage δ → List (BackendStep δ) → List String :=
  along joins

/-- What an operation that looks at the timers returns. -/
def fires (stage : Stage δ) : BackendStep δ → List Nat
  | .dispatchTimers now => [(stage.step (.dispatchTimers now)).1.total]
  | _ => []

/-- What the operations that look at the timers return in a run. -/
def fired : Stage δ → List (BackendStep δ) → List Nat :=
  along fires

/-- The outputs that an operation fails to bring back. -/
def failing (stage : Stage δ) : BackendStep δ → List String
  | .notifySession true =>
    ((Backend.comebacks stage.backend.outputs stage.source).filter (!·.succeeded)).map
      (·.before.name)
  | _ => []

theorem along_append {α : Type} (seen : Stage δ → BackendStep δ → List α) (stage : Stage δ)
    (first second : List (BackendStep δ)) :
    along seen stage (first ++ second) =
      along seen stage first ++ along seen (stage.run first) second := by
  induction first generalizing stage with
  | nil => rfl
  | cons step rest ih =>
    simp only [List.cons_append, along, ih, List.append_assoc]
    rfl

theorem filterMap_along {α β : Type} (choice : α → Option β)
    (seen : Stage δ → BackendStep δ → List α) (stage : Stage δ) (steps : List (BackendStep δ)) :
    (along seen stage steps).filterMap choice =
      along (fun stage step ↦ (seen stage step).filterMap choice) stage steps := by
  induction steps generalizing stage with
  | nil => rfl
  | cons step rest ih => rw [along, List.filterMap_append, ih]; rfl

/-- What each operation adds to a list is in the end what is seen along the run. -/
theorem eq_append_along {α : Type} (list : Stage δ → List α)
    {seen : Stage δ → BackendStep δ → List α}
    (hstep : ∀ stage step, list (stage.step step).2 = list stage ++ seen stage step)
    (stage : Stage δ) (steps : List (BackendStep δ)) :
    list (stage.run steps) = list stage ++ along seen stage steps := by
  induction steps generalizing stage with
  | nil => exact (List.append_nil _).symm
  | cons step rest ih =>
    refine (ih (stage.step step).2).trans ?_
    rw [hstep, along, List.append_assoc]

end Stage

/-! ### One output -/

/-- A timer that is armed after it was looked at did not fire. -/
theorem FrameTimer.isArmed_poll {timer : FrameTimer} {now : Nat}
    (harmed : (timer.poll now).2.isArmed) : timer.isArmed ∧ timer.isDue now = false := by
  unfold poll at harmed
  split at harmed
  · simp [isArmed] at harmed
  · next hidle => exact ⟨harmed, by simpa using hidle⟩

/-- A timer is due only if it is armed. -/
theorem FrameTimer.isArmed_of_isDue {timer : FrameTimer} {now : Nat}
    (hdue : timer.isDue now = true) : timer.isArmed := by
  unfold isDue at hdue
  cases hdeadline : timer.deadline with
  | none => simp [hdeadline] at hdue
  | some deadline => simp [isArmed, hdeadline]

omit [FramebufferDevice δ] in
theorem Output.SamePace.isArmed {before after : Output δ} (hpace : before.SamePace after)
    (harmed : after.timer.isArmed) : before.timer.isArmed := by
  rwa [FrameTimer.isArmed, ← hpace.deadline_eq]

/-- A repaint calls the renderer once, or it does not touch the timer. -/
theorem Output.renderings_cases (output : Output δ) (renderer : Renderer) (now : Nat) :
    (output.renderings renderer now = [] ∧
      (output.repaintPending renderer now).2.2.calls = renderer.calls ∧
      (output.repaintPending renderer now).2.1.timer = output.timer) ∨
    ∃ call, output.renderings renderer now = [.rendered output.name call] ∧
      (output.repaintPending renderer now).2.2.calls = renderer.calls ++ [call] := by
  unfold renderings
  generalize hrepaint : output.repaintPending renderer now = outcome
  have houtcome : RepaintOutcome output.takeDamage.2 output.pending renderer now outcome :=
    .of_eq hrepaint
  cases houtcome with
  | dropped hnone => exact .inl ⟨by simp, rfl, rfl⟩
  | painted hframebuffer hpaint =>
    have hcalls := Renderer.calls_of_paint_ok hpaint
    exact .inr ⟨_, by simp [hcalls], hcalls⟩
  | failed hframebuffer hpaint =>
    have hcalls := Renderer.calls_of_paint_error hpaint
    exact .inr ⟨_, by simp [hcalls], hcalls⟩

theorem Output.name_repaintPending (output : Output δ) (renderer : Renderer) (now : Nat) :
    (output.repaintPending renderer now).2.1.name = output.name := by
  generalize hrepaint : output.repaintPending renderer now = outcome
  have houtcome : RepaintOutcome output.takeDamage.2 output.pending renderer now outcome :=
    .of_eq hrepaint
  cases houtcome <;> rfl

/-! ### The passes -/

namespace Backend

omit [FramebufferDevice δ] in
/-- The host is told of a presented frame of each output whose timer is due. -/
theorem told_dispatchOutputs (now : Nat) (outputs : List (Output δ)) (host : Host) :
    ∃ told, (dispatchOutputs now outputs host).2.2.events = host.events ++ told ∧
      told.map HostEvent.output = (outputs.filter (·.timer.isDue now)).map Output.name ∧
      told.length = (dispatchOutputs now outputs host).1 ∧
      ∀ event ∈ told, ∃ output time, event = .finished output time .none := by
  induction outputs generalizing host with
  | nil => exact ⟨[], by simp [dispatchOutputs]⟩
  | cons output rest ih =>
    simp only [dispatchOutputs, output.dispatchTimer_eq]
    cases hdue : output.timer.isDue now with
    | false =>
      obtain ⟨told, hevents, hnames, hcount, hframes⟩ := ih host
      exact ⟨told, hevents, by simpa [hdue] using hnames, by simpa using hcount, hframes⟩
    | true =>
      obtain ⟨told, hevents, hnames, hcount, hframes⟩ := ih (host.finishFrame output.name .none)
      refine ⟨.finished output.name host.readClock.1 .none :: told, ?_, ?_, ?_, ?_⟩
      · simpa [Host.finishFrame, Host.readClock, Host.tell] using hevents
      · simpa [hdue, HostEvent.output] using hnames
      · rw [List.length_cons, hcount, Bool.toNat_true, Nat.add_comm]
        rfl
      · exact List.forall_mem_cons.mpr ⟨⟨_, _, rfl⟩, hframes⟩

omit [FramebufferDevice δ] in
/-- The host is told to begin with each output. -/
theorem told_startRepaintLoop (backend : Backend δ) (host : Host) :
    ∃ told, (backend.startRepaintLoop host).events = host.events ++ told ∧
      told.map HostEvent.output = backend.outputs.map Output.name ∧
      ∀ event ∈ told, ∃ output time, event = .finished output time .invalid := by
  unfold startRepaintLoop
  generalize backend.outputs = outputs
  induction outputs generalizing host with
  | nil => exact ⟨[], by simp⟩
  | cons output rest ih =>
    obtain ⟨told, hevents, hnames, hframes⟩ := ih (output.startRepaintLoop host)
    refine ⟨.finished output.name host.readClock.1 .invalid :: told, ?_, ?_, ?_⟩
    · simpa [Output.startRepaintLoop, Host.finishFrame, Host.readClock, Host.tell] using hevents
    · simpa [HostEvent.output] using hnames
    · exact List.forall_mem_cons.mpr ⟨⟨_, _, rfl⟩, hframes⟩

/-- The renderer keeps the calls that are made on it in a pass. -/
theorem calls_repaintOutputs (now : Nat) (outputs : List (Output δ)) (renderer : Renderer) :
    (repaintOutputs now outputs renderer).2.2.calls =
      renderer.calls ++ (renderings now outputs renderer).filterMap Happening.call? := by
  induction outputs generalizing renderer with
  | nil => simp [repaintOutputs, renderings]
  | cons output rest ih =>
    unfold repaintOutputs renderings
    split
    · simp only [ih, List.filterMap_append]
      rcases output.renderings_cases renderer now with ⟨hnone, hcalls, -⟩ | ⟨call, hone, hcalls⟩
      · simp [hnone, hcalls]
      · simp [hone, hcalls, Happening.call?]
    · exact ih renderer

/-- In a pass the renderer is called once at most for each output. -/
theorem output_renderings_sublist (now : Nat) (outputs : List (Output δ)) (renderer : Renderer) :
    ((renderings now outputs renderer).map Happening.output).Sublist
      (outputs.map Output.name) := by
  induction outputs generalizing renderer with
  | nil => exact .slnil
  | cons output rest ih =>
    unfold renderings
    split
    · rw [List.map_append, List.map_cons, ← List.singleton_append]
      refine List.Sublist.append ?_ (ih _)
      rcases output.renderings_cases renderer now with ⟨hnone, -⟩ | ⟨call, hone, -⟩
      · simp [hnone]
      · simp [hone, Happening.output]
    · exact (ih renderer).cons _

theorem rendered_of_mem_renderings {now : Nat} {outputs : List (Output δ)} {renderer : Renderer}
    {entry : Happening} (hentry : entry ∈ renderings now outputs renderer) :
    ∃ output call, entry = .rendered output call := by
  induction outputs generalizing renderer with
  | nil => exact absurd hentry List.not_mem_nil
  | cons output rest ih =>
    unfold renderings at hentry
    split at hentry
    · rcases List.mem_append.mp hentry with hfirst | hrest
      · obtain ⟨call, -, rfl⟩ := List.mem_map.mp hfirst
        exact ⟨output.name, call, rfl⟩
      · exact ih hrest
    · exact ih hentry

/-- A pass keeps every output. A timer that is armed after it was armed before it, or the renderer
was called. -/
theorem lasting_repaintOutputs (now : Nat) (outputs : List (Output δ)) (renderer : Renderer) :
    ∃ lasting : List (Output δ × Output δ), lasting.map Prod.fst = outputs ∧
      lasting.map Prod.snd = (repaintOutputs now outputs renderer).2.1 ∧
      ∀ pair ∈ lasting, pair.2.name = pair.1.name ∧ (pair.2.timer.isArmed → pair.1.timer.isArmed ∨
        ∃ call, .rendered pair.2.name call ∈ renderings now outputs renderer) := by
  induction outputs generalizing renderer with
  | nil => exact ⟨[], rfl, rfl, by simp⟩
  | cons output rest ih =>
    unfold repaintOutputs renderings
    split
    · obtain ⟨lasting, hbefore, hafter, hlasting⟩ := ih (output.repaintPending renderer now).2.2
      refine ⟨(output, (output.repaintPending renderer now).2.1) :: lasting,
        congrArg (output :: ·) hbefore, congrArg (_ :: ·) hafter, ?_⟩
      rw [List.forall_mem_cons]
      constructor
      · refine ⟨output.name_repaintPending renderer now, fun harmed ↦ ?_⟩
        rw [output.name_repaintPending]
        rcases output.renderings_cases renderer now with ⟨-, -, htimer⟩ | ⟨call, hone, -⟩
        · exact .inl (htimer ▸ harmed)
        · exact .inr ⟨call, by simp [hone]⟩
      · intro pair hpair
        refine ⟨(hlasting pair hpair).1, fun harmed ↦ ?_⟩
        rcases (hlasting pair hpair).2 harmed with hearlier | ⟨call, hcall⟩
        · exact .inl hearlier
        · exact .inr ⟨call, List.mem_append_right _ hcall⟩
    · obtain ⟨lasting, hbefore, hafter, hlasting⟩ := ih renderer
      refine ⟨(output, output) :: lasting, congrArg (output :: ·) hbefore,
        congrArg (output :: ·) hafter, ?_⟩
      exact List.forall_mem_cons.mpr ⟨⟨rfl, .inl⟩, hlasting⟩

/-- An output is added under its name and with its timer at rest, or the backend stays as it is. -/
theorem addOutput_cases (backend : Backend δ) (name : String) (device : δ)
    (source : ScreenSource) :
    let added := backend.addOutput name device source
    (added.1 = .ok () ∧ ∃ output : Output δ, added.2.1.outputs = backend.outputs ++ [output] ∧
      output.name = name ∧ output.timer.isArmed = false) ∨
    ((∃ error, added.1 = .error error) ∧ added.2.1 = backend) := by
  intro added
  simp only [added]
  unfold addOutput
  generalize hcreate : Output.create name device source = outcome
  cases Output.CreateOutcome.of_eq hcreate with
  | queryFailed hanswer => exact .inr ⟨⟨_, rfl⟩, rfl⟩
  | invalid hanswer hlayout => exact .inr ⟨⟨_, rfl⟩, rfl⟩
  | openFailed hanswer hlayout hopen => exact .inr ⟨⟨_, rfl⟩, rfl⟩
  | created hanswer hlayout hopen =>
    dsimp only
    split
    · split
      · exact .inr ⟨⟨_, rfl⟩, rfl⟩
      · next back henable =>
        have hpace := (Output.samePace_of_enable henable).trans back.samePace_damageAll
        refine .inl ⟨rfl, back.damageAll, rfl, hpace.name_eq, ?_⟩
        rw [FrameTimer.isArmed, hpace.deadline_eq]
        rfl
    · exact .inl ⟨rfl, _, rfl, rfl, rfl⟩

end Backend

/-! ### What the host is told -/

namespace Stage

/-- What the host is told in an operation. -/
inductive Tells (stage : Stage δ) : BackendStep δ → List HostEvent → Prop
  | nothing {step : BackendStep δ} (hfailing : stage.failing step = [])
      (hfires : stage.fires step = []) : Tells stage step []
  | failures : Tells stage (.notifySession true)
      ((stage.failing (.notifySession true)).map .removed)
  | frames {now : Nat} {told : List HostEvent}
      (hnames : told.map HostEvent.output =
        (stage.backend.outputs.filter (·.timer.isDue now)).map Output.name)
      (hcount : stage.fires (.dispatchTimers now) = [told.length])
      (hframes : ∀ event ∈ told, ∃ output time, event = .finished output time .none) :
      Tells stage (.dispatchTimers now) told
  | beginnings {told : List HostEvent}
      (hnames : told.map HostEvent.output = stage.backend.outputs.map Output.name)
      (hbegins : ∀ event ∈ told, ∃ output time, event = .finished output time .invalid) :
      Tells stage .startRepaintLoop told

theorem failing_sublist (stage : Stage δ) (step : BackendStep δ) :
    (stage.failing step).Sublist (stage.backend.outputs.map Output.name) := by
  cases step with
  | notifySession active =>
    cases active with
    | false => exact List.nil_sublist _
    | true =>
      rw [← Backend.map_name_comebacks stage.backend.outputs stage.source]
      exact List.filter_sublist.map _
  | _ => exact List.nil_sublist _

namespace Tells

variable {stage : Stage δ} {step : BackendStep δ} {told : List HostEvent}

theorem output_sublist (htells : stage.Tells step told) :
    (told.map HostEvent.output).Sublist (stage.backend.outputs.map Output.name) := by
  cases htells with
  | nothing hfailing hfires => exact List.nil_sublist _
  | failures =>
    rw [List.map_map]
    simpa [Function.comp_def, HostEvent.output] using stage.failing_sublist (.notifySession true)
  | frames hnames hcount hframes =>
    rw [hnames]
    exact List.filter_sublist.map _
  | beginnings hnames hbegins =>
    rw [hnames]

/-- A frame is presented only when the timers are looked at, and then of an output that is due. -/
theorem isDue_of_presents (htells : stage.Tells step told) {event : HostEvent}
    (hevent : event ∈ told) (hpresents : event.presents) :
    ∃ now, step = .dispatchTimers now ∧
      ∃ output ∈ stage.backend.outputs, output.name = event.output ∧ output.timer.isDue now := by
  cases htells with
  | nothing hfailing hfires => exact absurd hevent List.not_mem_nil
  | failures =>
    obtain ⟨name, -, rfl⟩ := List.mem_map.mp hevent
    simp [HostEvent.presents] at hpresents
  | @frames now told hnames hcount hframes =>
    have hname : event.output ∈ told.map HostEvent.output := List.mem_map_of_mem hevent
    rw [hnames] at hname
    obtain ⟨output, houtput, hsame⟩ := List.mem_map.mp hname
    obtain ⟨hheld, hdue⟩ := List.mem_filter.mp houtput
    exact ⟨now, rfl, output, hheld, hsame, hdue⟩
  | beginnings hnames hbegins =>
    obtain ⟨output, time, rfl⟩ := hbegins event hevent
    exact absurd hpresents (by simp [HostEvent.presents, FrameFlags.none, FrameFlags.invalid])

/-- The host is told that an output is gone exactly if it could not be brought back. -/
theorem removed_eq (htells : stage.Tells step told) :
    told.filterMap HostEvent.removed? = stage.failing step := by
  cases htells with
  | nothing hfailing hfires => exact hfailing.symm
  | failures => simp [List.filterMap_map, Function.comp_def, HostEvent.removed?]
  | frames hnames hcount hframes =>
    refine List.filterMap_eq_nil_iff.mpr fun event hevent ↦ ?_
    obtain ⟨output, time, rfl⟩ := hframes event hevent
    rfl
  | beginnings hnames hbegins =>
    refine List.filterMap_eq_nil_iff.mpr fun event hevent ↦ ?_
    obtain ⟨output, time, rfl⟩ := hbegins event hevent
    rfl

/-- As many frames are presented as timers are said to have fired. -/
theorem countP_presents (htells : stage.Tells step told) :
    told.countP HostEvent.presents = (stage.fires step).sum := by
  cases htells with
  | nothing hfailing hfires => rw [hfires, List.countP_nil, List.sum_nil]
  | failures => simp [List.countP_map, Function.comp_def, HostEvent.presents, fires]
  | frames hnames hcount hframes =>
    rw [hcount, List.sum_singleton, List.countP_eq_length]
    intro event hevent
    obtain ⟨output, time, rfl⟩ := hframes event hevent
    rfl
  | beginnings hnames hbegins =>
    have hquiet : stage.fires .startRepaintLoop = [] := rfl
    rw [hquiet, List.sum_nil, List.countP_eq_zero]
    intro event hevent
    obtain ⟨output, time, rfl⟩ := hbegins event hevent
    simp [HostEvent.presents, FrameFlags.none, FrameFlags.invalid]

/-- The host counts the frames that are presented. -/
theorem frames_eq (htells : stage.Tells step told) {before after : Host}
    (hevents : after.events = before.events ++ told) :
    after.frames = before.frames + told.countP HostEvent.presents := by
  unfold Host.frames
  rw [hevents, List.countP_append]
  refine congrArg (_ + ·) (List.countP_congr fun event hevent ↦ ?_)
  cases htells with
  | nothing hfailing hfires => exact absurd hevent List.not_mem_nil
  | failures =>
    obtain ⟨name, -, rfl⟩ := List.mem_map.mp hevent
    rfl
  | frames hnames hcount hframes =>
    obtain ⟨output, time, rfl⟩ := hframes event hevent
    exact iff_of_true rfl rfl
  | beginnings hnames hbegins =>
    obtain ⟨output, time, rfl⟩ := hbegins event hevent
    exact iff_of_false Bool.false_ne_true Bool.false_ne_true

end Tells

/-- What the host is told of comes after what it was told before. -/
theorem told_eq {stage : Stage δ} {step : BackendStep δ} {told : List HostEvent}
    (hevents : (stage.step step).2.host.events = stage.host.events ++ told) :
    stage.told step = told := by
  rw [Stage.told, hevents, List.drop_left]

theorem tells_step (stage : Stage δ) (step : BackendStep δ) :
    (stage.step step).2.host.events = stage.host.events ++ stage.told step ∧
      stage.Tells step (stage.told step) := by
  have hsuffices {told : List HostEvent}
      (hevents : (stage.step step).2.host.events = stage.host.events ++ told)
      (htells : stage.Tells step told) :
      (stage.step step).2.host.events = stage.host.events ++ stage.told step ∧
        stage.Tells step (stage.told step) := by
    rw [told_eq hevents]
    exact ⟨hevents, htells⟩
  cases step with
  | addOutput name device => exact hsuffices (List.append_nil _).symm (.nothing rfl rfl)
  | notifySession active =>
    cases active with
    | false => exact hsuffices (List.append_nil _).symm (.nothing rfl rfl)
    | true =>
      refine hsuffices ?_ .failures
      simp only [Stage.step, Backend.notifySession, if_true, Backend.reenableAll_eq, failing,
        List.map_map]
      rfl
  | repaintPending now => exact hsuffices (List.append_nil _).symm (.nothing rfl rfl)
  | damageAll => exact hsuffices (List.append_nil _).symm (.nothing rfl rfl)
  | dispatchTimers now =>
    obtain ⟨told, hevents, hnames, hcount, hframes⟩ :=
      Backend.told_dispatchOutputs now stage.backend.outputs stage.host
    exact hsuffices hevents (.frames hnames (congrArg ([·]) hcount.symm) hframes)
  | startRepaintLoop =>
    obtain ⟨told, hevents, hnames, hbegins⟩ := stage.backend.told_startRepaintLoop stage.host
    exact hsuffices hevents (.beginnings hnames hbegins)
  | shutdown => exact hsuffices (List.append_nil _).symm (.nothing rfl rfl)

/-- The renderer keeps the calls that are made on it. -/
theorem calls_step (stage : Stage δ) (step : BackendStep δ) :
    (stage.step step).2.renderer.calls =
      stage.renderer.calls ++ (stage.renderings step).filterMap Happening.call? := by
  cases step with
  | repaintPending now => exact Backend.calls_repaintOutputs now _ _
  | notifySession active => cases active <;> exact (List.append_nil _).symm
  | _ => exact (List.append_nil _).symm

theorem told_eq_nil_or (stage : Stage δ) (step : BackendStep δ) :
    stage.told step = [] ∨ stage.renderings step = [] := by
  cases step with
  | repaintPending now => exact .inl (told_eq (List.append_nil _).symm)
  | _ => exact .inr rfl

theorem rendered_of_mem_renderings {stage : Stage δ} {step : BackendStep δ} {entry : Happening}
    (hentry : entry ∈ stage.renderings step) : ∃ output call, entry = .rendered output call := by
  cases step with
  | repaintPending now => exact Backend.rendered_of_mem_renderings hentry
  | _ => exact absurd hentry List.not_mem_nil

theorem filterMap_renderings {α : Type} {choice : Happening → Option α}
    (hchoice : ∀ output call, choice (.rendered output call) = none) (stage : Stage δ)
    (step : BackendStep δ) : (stage.renderings step).filterMap choice = [] := by
  refine List.filterMap_eq_nil_iff.mpr fun entry hentry ↦ ?_
  obtain ⟨output, call, rfl⟩ := rendered_of_mem_renderings hentry
  exact hchoice output call

/-- A frame that is presented is something that the host is told. -/
theorem told_of_presents {stage : Stage δ} {step : BackendStep δ} {entry : Happening}
    (hentry : entry ∈ stage.happenings step) (hpresents : entry.presents) :
    ∃ event ∈ stage.told step, entry = .told event := by
  rcases List.mem_append.mp hentry with htold | hrendering
  · obtain ⟨event, hevent, rfl⟩ := List.mem_map.mp htold
    exact ⟨event, hevent, rfl⟩
  · obtain ⟨output, call, rfl⟩ := rendered_of_mem_renderings hrendering
    exact absurd hpresents Bool.false_ne_true

theorem output_happenings_sublist (stage : Stage δ) (step : BackendStep δ) :
    ((stage.happenings step).map Happening.output).Sublist
      (stage.backend.outputs.map Output.name) := by
  rcases stage.told_eq_nil_or step with htold | hrenderings
  · rw [happenings, htold, List.map_nil, List.nil_append]
    cases step with
    | repaintPending now => exact Backend.output_renderings_sublist now _ _
    | _ => exact List.nil_sublist _
  · rw [happenings, hrenderings, List.append_nil, List.map_map]
    exact (stage.tells_step step).2.output_sublist

theorem removed_happenings (stage : Stage δ) (step : BackendStep δ) :
    (stage.happenings step).filterMap Happening.removed? = stage.failing step := by
  rw [happenings, List.filterMap_append, filterMap_renderings fun _ _ ↦ rfl, List.append_nil,
    List.filterMap_map]
  exact (stage.tells_step step).2.removed_eq

theorem presents_happenings (stage : Stage δ) (step : BackendStep δ) :
    (stage.happenings step).countP Happening.presents = (stage.fires step).sum := by
  have hrenderings : (stage.renderings step).countP Happening.presents = 0 := by
    refine List.countP_eq_zero.mpr fun entry hentry ↦ ?_
    obtain ⟨output, call, rfl⟩ := rendered_of_mem_renderings hentry
    exact Bool.false_ne_true
  rw [happenings, List.countP_append, hrenderings, Nat.add_zero, List.countP_map]
  exact (stage.tells_step step).2.countP_presents

theorem frames_step (stage : Stage δ) (step : BackendStep δ) :
    (stage.step step).2.host.frames = stage.host.frames + (stage.fires step).sum := by
  obtain ⟨hevents, htells⟩ := stage.tells_step step
  rw [htells.frames_eq hevents, htells.countP_presents]

/-! ### What is left of the outputs -/

/-- What becomes of an output that an operation keeps. -/
structure Lasts (stage : Stage δ) (step : BackendStep δ) (before after : Output δ) : Prop where
  name_eq : after.name = before.name
  /-- A timer that is armed afterwards was armed before, or the renderer was called. -/
  armed : after.timer.isArmed →
    before.timer.isArmed ∨ ∃ call, .rendered after.name call ∈ stage.renderings step
  /-- A timer that is armed after it was looked at was not due. -/
  unfired : ∀ now, step = .dispatchTimers now → after.timer.isArmed →
    before.timer.isDue now = false

/-- The outputs that an operation keeps, as they were before and are after it, and those that are
new after it. -/
structure Leaves (stage : Stage δ) (step : BackendStep δ) (lasting : List (Output δ × Output δ))
    (newcomers : List (Output δ)) : Prop where
  before : (lasting.map Prod.fst).Sublist stage.backend.outputs
  after : (stage.step step).2.backend.outputs = lasting.map Prod.snd ++ newcomers
  lasts : ∀ pair ∈ lasting, stage.Lasts step pair.1 pair.2
  joins : newcomers.map Output.name = stage.joins step
  resting : ∀ newcomer ∈ newcomers, newcomer.timer.isArmed = false

theorem Lasts.of_samePace {stage : Stage δ} {step : BackendStep δ} {before after : Output δ}
    (hother : ∀ now, step ≠ .dispatchTimers now) (hpace : before.SamePace after) :
    stage.Lasts step before after :=
  ⟨hpace.name_eq, fun harmed ↦ .inl (hpace.isArmed harmed),
    fun now hstep ↦ absurd hstep (hother now)⟩

/-- An operation that treats every output alike keeps all of them. -/
theorem leaves_of_map {stage : Stage δ} {step : BackendStep δ} {change : Output δ → Output δ}
    (hafter : (stage.step step).2.backend.outputs = stage.backend.outputs.map change)
    (hlasts : ∀ output, stage.Lasts step output (change output)) (hjoins : stage.joins step = []) :
    stage.Leaves step (stage.backend.outputs.map fun output ↦ (output, change output)) [] where
  before := by simp [Function.comp_def]
  after := by simpa [Function.comp_def] using hafter
  lasts := by simpa using fun output _ ↦ hlasts output
  joins := hjoins.symm
  resting := by simp

theorem leaves_addOutput (stage : Stage δ) (name : String) (device : δ) :
    ∃ newcomers, stage.Leaves (.addOutput name device)
      (stage.backend.outputs.map fun output ↦ (output, output)) newcomers := by
  have hlasts : ∀ pair ∈ stage.backend.outputs.map fun output ↦ (output, output),
      stage.Lasts (.addOutput name device) pair.1 pair.2 := by
    simpa using fun output _ ↦ Lasts.of_samePace (by simp) (.refl output)
  rcases stage.backend.addOutput_cases name device stage.source with
    ⟨hok, output, houtputs, hname, hresting⟩ | ⟨⟨error, herror⟩, hsame⟩
  · have hafter : (stage.step (.addOutput name device)).2.backend.outputs = _ := houtputs
    exact ⟨[output], by simp [Function.comp_def], by simpa [Function.comp_def] using hafter, hlasts,
      by simp [Stage.joins, hok, hname], by simpa using hresting⟩
  · have hafter : (stage.step (.addOutput name device)).2.backend = _ := hsame
    exact ⟨[], by simp [Function.comp_def], by simp [hafter, Function.comp_def], hlasts,
      by simp [Stage.joins, herror], by simp⟩

/-- The outputs that came back when the session was activated. -/
theorem outputs_activate (stage : Stage δ) :
    (stage.step (.notifySession true)).2.backend.outputs =
      ((Backend.comebacks stage.backend.outputs stage.source).filter Comeback.succeeded).map
        Comeback.kept := by
  simp only [Stage.step, Backend.notifySession, if_true, Backend.reenableAll_eq]

theorem leaves_activate (stage : Stage δ) :
    stage.Leaves (.notifySession true)
      (((Backend.comebacks stage.backend.outputs stage.source).filter Comeback.succeeded).map
        fun comeback ↦ (comeback.before, comeback.kept)) [] where
  before := by
    have hbefore := Backend.map_before_comebacks stage.backend.outputs stage.source
    rw [List.map_map]
    conv_rhs => rw [← hbefore]
    exact List.filter_sublist.map _
  after := by
    rw [outputs_activate, List.append_nil, List.map_map]
    rfl
  lasts := by
    intro pair hpair
    obtain ⟨comeback, hcame, rfl⟩ := List.mem_map.mp hpair
    obtain ⟨output, later, rfl⟩ := Backend.eq_of_mem_comebacks (List.mem_of_mem_filter hcame)
    exact .of_samePace (by simp) (Comeback.samePace_kept output later)
  joins := rfl
  resting := by simp

theorem leaves_step (stage : Stage δ) (step : BackendStep δ) :
    ∃ lasting newcomers, stage.Leaves step lasting newcomers := by
  cases step with
  | addOutput name device => exact ⟨_, stage.leaves_addOutput name device⟩
  | notifySession active =>
    cases active with
    | false =>
      exact ⟨_, _, leaves_of_map rfl
        (fun output ↦ .of_samePace (by simp) output.samePace_disable) rfl⟩
    | true => exact ⟨_, _, stage.leaves_activate⟩
  | repaintPending now =>
    obtain ⟨lasting, hbefore, hafter, hlasting⟩ :=
      Backend.lasting_repaintOutputs now stage.backend.outputs stage.renderer
    refine ⟨lasting, [], by rw [hbefore], ?_, ?_, rfl, by simp⟩
    · rw [List.append_nil, hafter]
      rfl
    · intro pair hpair
      exact ⟨(hlasting pair hpair).1, (hlasting pair hpair).2, by simp⟩
  | damageAll =>
    exact ⟨_, _, leaves_of_map rfl
      (fun output ↦ .of_samePace (by simp) output.samePace_damageAll) rfl⟩
  | dispatchTimers now =>
    refine ⟨_, _, leaves_of_map (Backend.outputs_dispatchOutputs now _ _) (fun output ↦ ?_) rfl⟩
    refine ⟨rfl, fun harmed ↦ .inl (FrameTimer.isArmed_poll harmed).1, ?_⟩
    rintro _ ⟨⟩ harmed
    exact (FrameTimer.isArmed_poll harmed).2
  | startRepaintLoop =>
    exact ⟨_, _, leaves_of_map (List.map_id _).symm
      (fun output ↦ .of_samePace (by simp) (.refl output)) rfl⟩
  | shutdown => exact ⟨[], [], by simp, rfl, by simp, rfl, by simp⟩

/-! ### What an operation adds -/

/-- What an operation adds to a chronicle, as far as names and timers are concerned. -/
structure Adds (stage : Stage δ) (step : BackendStep δ) : Prop where
  /-- Each output is named once at most. -/
  names : ((stage.happenings step).map Happening.output).Sublist
    (stage.backend.outputs.map Output.name)
  /-- The outputs are those from before and the one that is added. -/
  kept : ((stage.step step).2.backend.outputs.map Output.name).Sublist
    (stage.backend.outputs.map Output.name ++ stage.joins step)
  /-- A frame is presented of an output with an armed timer only. -/
  due : ∀ entry ∈ stage.happenings step, entry.presents →
    ∃ output ∈ stage.backend.outputs, output.name = entry.output ∧ output.timer.isArmed
  /-- A timer that is armed afterwards did not fire. -/
  unfired : ∀ output ∈ (stage.step step).2.backend.outputs, output.timer.isArmed →
    ∀ entry ∈ stage.happenings step, entry.presents → entry.output ≠ output.name
  /-- A timer that is armed afterwards was armed before, or the renderer was called. -/
  armed : ∀ output ∈ (stage.step step).2.backend.outputs, output.timer.isArmed →
    (∃ call, .rendered output.name call ∈ stage.happenings step) ∨
      ∃ before ∈ stage.backend.outputs, before.name = output.name ∧ before.timer.isArmed
  /-- An output is not kept if the host is told that it is gone. -/
  removed : ∀ name, .told (.removed name) ∈ stage.happenings step →
    name ∉ (stage.step step).2.backend.outputs.map Output.name

/-- The outputs are those from before and the one that is added. -/
theorem names_step_sublist (stage : Stage δ) (step : BackendStep δ) :
    ((stage.step step).2.backend.outputs.map Output.name).Sublist
      (stage.backend.outputs.map Output.name ++ stage.joins step) := by
  obtain ⟨lasting, newcomers, hleaves⟩ := stage.leaves_step step
  have hnames : (lasting.map Prod.snd).map Output.name =
      (lasting.map Prod.fst).map Output.name := by
    simp only [List.map_map]
    exact List.map_congr_left fun pair hpair ↦ (hleaves.lasts pair hpair).name_eq
  rw [hleaves.after, List.map_append, hnames, hleaves.joins]
  exact (hleaves.before.map _).append (.refl _)

/-- A frame that is presented is of an output whose timer is due, when the timers are looked at. -/
theorem isDue_of_presents {stage : Stage δ} {step : BackendStep δ} {entry : Happening}
    (hentry : entry ∈ stage.happenings step) (hpresents : entry.presents) :
    ∃ now, step = .dispatchTimers now ∧
      ∃ output ∈ stage.backend.outputs, output.name = entry.output ∧ output.timer.isDue now := by
  obtain ⟨event, hevent, rfl⟩ := told_of_presents hentry hpresents
  exact (stage.tells_step step).2.isDue_of_presents hevent hpresents

/-- The outputs that are kept and those that the host is told are gone are different ones. -/
theorem name_notMem_of_removed {stage : Stage δ} {step : BackendStep δ}
    (hdistinct : (stage.backend.outputs.map Output.name).Nodup) {name : String}
    (hfailing : name ∈ stage.failing step) :
    name ∉ (stage.step step).2.backend.outputs.map Output.name := by
  cases step with
  | notifySession active =>
    cases active with
    | false => exact absurd hfailing List.not_mem_nil
    | true =>
      intro hkept
      obtain ⟨output, houtput, hname⟩ := List.mem_map.mp hkept
      rw [outputs_activate] at houtput
      obtain ⟨came, hcame, rfl⟩ := List.mem_map.mp houtput
      obtain ⟨failed, hfailed, rfl⟩ := List.mem_map.mp hfailing
      obtain ⟨hin, hsucceeded⟩ := List.mem_filter.mp hcame
      obtain ⟨hout, hnot⟩ := List.mem_filter.mp hfailed
      have hnames : ((Backend.comebacks stage.backend.outputs stage.source).map
          (·.before.name)).Nodup := by
        rwa [Backend.map_name_comebacks]
      have hsame : came.before.name = failed.before.name := by
        obtain ⟨output, later, rfl⟩ := Backend.eq_of_mem_comebacks hin
        rw [← hname]
        exact (Comeback.samePace_kept output later).name_eq.symm
      obtain rfl := List.inj_on_of_nodup_map hnames hin hout hsame
      simp [hsucceeded] at hnot
  | _ => exact absurd hfailing List.not_mem_nil

theorem adds_step (stage : Stage δ) (step : BackendStep δ)
    (hdistinct : (stage.backend.outputs.map Output.name).Nodup) : stage.Adds step := by
  obtain ⟨lasting, newcomers, hleaves⟩ := stage.leaves_step step
  -- An armed output is not a newcomer, so it was there before.
  have hold : ∀ output ∈ (stage.step step).2.backend.outputs, output.timer.isArmed →
      ∃ before ∈ stage.backend.outputs, stage.Lasts step before output := by
    intro output houtput harmed
    rw [hleaves.after] at houtput
    rcases List.mem_append.mp houtput with hlasting | hnew
    · obtain ⟨pair, hpair, rfl⟩ := List.mem_map.mp hlasting
      exact ⟨pair.1, hleaves.before.subset (List.mem_map_of_mem hpair), hleaves.lasts pair hpair⟩
    · simp [hleaves.resting output hnew] at harmed
  constructor
  · exact stage.output_happenings_sublist step
  · exact stage.names_step_sublist step
  · intro entry hentry hpresents
    obtain ⟨now, -, output, houtput, hname, hdue⟩ := isDue_of_presents hentry hpresents
    exact ⟨output, houtput, hname, FrameTimer.isArmed_of_isDue hdue⟩
  · intro output houtput harmed entry hentry hpresents hsame
    obtain ⟨before, hbefore, hlasts⟩ := hold output houtput harmed
    obtain ⟨now, rfl, due, hdue, hname, hisDue⟩ := isDue_of_presents hentry hpresents
    have hone : due = before := by
      apply List.inj_on_of_nodup_map hdistinct hdue hbefore
      rw [hname, hsame, hlasts.name_eq]
    have hidle := hlasts.unfired now rfl harmed
    rw [← hone, hisDue] at hidle
    exact absurd hidle Bool.true_eq_false.mp
  · intro output houtput harmed
    obtain ⟨before, hbefore, hlasts⟩ := hold output houtput harmed
    rcases hlasts.armed harmed with hearlier | ⟨call, hcall⟩
    · exact .inr ⟨before, hbefore, hlasts.name_eq.symm, hearlier⟩
    · exact .inl ⟨call, List.mem_append_right _ hcall⟩
  · intro name htold
    apply name_notMem_of_removed hdistinct
    rw [← removed_happenings]
    exact List.mem_filterMap.mpr ⟨_, htold, rfl⟩

/-! ### A whole run -/

/-- What the host has been told is in the chronicle. -/
theorem events_run (stage : Stage δ) (steps : List (BackendStep δ)) :
    (stage.run steps).host.events =
      stage.host.events ++ (stage.chronicle steps).filterMap Happening.event? := by
  rw [chronicle, filterMap_along]
  refine eq_append_along (fun stage ↦ stage.host.events) (fun stage step ↦ ?_) stage steps
  have htold : ((stage.told step).map Happening.told).filterMap Happening.event? =
      stage.told step := by
    simp [List.filterMap_map, Function.comp_def, Happening.event?]
  rw [(stage.tells_step step).1, happenings, List.filterMap_append, htold,
    filterMap_renderings fun _ _ ↦ rfl, List.append_nil]

/-- The calls made on the renderer are in the chronicle. -/
theorem calls_run (stage : Stage δ) (steps : List (BackendStep δ)) :
    (stage.run steps).renderer.calls =
      stage.renderer.calls ++ (stage.chronicle steps).filterMap Happening.call? := by
  rw [chronicle, filterMap_along]
  refine eq_append_along (fun stage ↦ stage.renderer.calls) (fun stage step ↦ ?_) stage steps
  have htold : ((stage.told step).map Happening.told).filterMap Happening.call? = [] := by
    simp [List.filterMap_map, Function.comp_def, Happening.call?]
  rw [stage.calls_step step, happenings, List.filterMap_append, htold, List.nil_append]

/-- As many frames are presented in a run as timers are said to have fired. -/
theorem presents_chronicle (stage : Stage δ) (steps : List (BackendStep δ)) :
    (stage.chronicle steps).countP Happening.presents = (stage.fired steps).sum := by
  induction steps generalizing stage with
  | nil => rfl
  | cons step rest ih =>
    have hsplit : stage.chronicle (step :: rest) =
        stage.happenings step ++ (stage.step step).2.chronicle rest := rfl
    have hfired : stage.fired (step :: rest) =
        stage.fires step ++ (stage.step step).2.fired rest := rfl
    rw [hsplit, hfired, List.countP_append, List.sum_append, stage.presents_happenings, ih]

/-- The host counts in a run as many frames as timers are said to have fired. -/
theorem frames_run (stage : Stage δ) (steps : List (BackendStep δ)) :
    (stage.run steps).host.frames = stage.host.frames + (stage.fired steps).sum := by
  induction steps generalizing stage with
  | nil => rfl
  | cons step rest ih =>
    have hfired : stage.fired (step :: rest) =
        stage.fires step ++ (stage.step step).2.fired rest := rfl
    refine (ih (stage.step step).2).trans ?_
    rw [stage.frames_step, hfired, List.sum_append, Nat.add_assoc]

/-- A run names outputs that were there at its begin or were added in it. -/
theorem output_mem_of_chronicle {stage : Stage δ} {steps : List (BackendStep δ)}
    {entry : Happening} (hentry : entry ∈ stage.chronicle steps) :
    entry.output ∈ stage.backend.outputs.map Output.name ++ stage.joined steps := by
  induction steps generalizing stage with
  | nil => exact absurd hentry List.not_mem_nil
  | cons step rest ih =>
    have hjoined : stage.joined (step :: rest) =
        stage.joins step ++ (stage.step step).2.joined rest := rfl
    rw [hjoined]
    rcases List.mem_append.mp hentry with hnow | hlater
    · exact List.mem_append_left _
        ((stage.output_happenings_sublist step).subset (List.mem_map_of_mem hnow))
    · rw [← List.append_assoc]
      rcases List.mem_append.mp (ih hlater) with hkept | hnew
      · exact List.mem_append_left _ ((stage.names_step_sublist step).subset hkept)
      · exact List.mem_append_right _ hnew

end Stage

end HeadlessDisplay
