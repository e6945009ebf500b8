import HeadlessDisplay.Output.HeapStorage
import HeadlessDisplay.Proofs.Backend.Laws
import HeadlessDisplay.Proofs.Output.Coherence

/-!
# What is on the screen of a backend

With a renderer that at each call either fills the damage with one colour or fails without drawing
(`FillsOrFails`), every pixel of a mapped surface is at all times covered by pending damage or shows
the colour. `Shows` says so of one output. A surface that was just mapped may hold anything, so
what starts the property is not the mapping but the damage of the whole output that a backend
records with it (`shows_damageAll`); a repaint keeps it, because the pixels of the damage that was
taken are filled or the damage is put back (`shows_repaintPending`).
-/

set_option autoImplicit false
set_option relaxedAutoImplicit false

namespace HeadlessDisplay

/-! ### Renderers of one colour -/

namespace Renderer

/-- At each call the renderer fills the damage with the colour or fails without drawing. -/
def FillsOrFails (renderer : Renderer) (color : UInt32) : Prop :=
  ∀ call surface damage, ∃ failure : Option RenderError,
    renderer.behaviour call surface damage =
      fillBehaviour color (fun _ ↦ failure) call surface damage

/-- A renderer of one colour is one, whatever failures are prescribed. -/
theorem fillsOrFails_solid (color : UInt32) (failure : Nat → Option RenderError) :
    (solid color failure).FillsOrFails color :=
  fun call _ _ ↦ ⟨failure call, rfl⟩

/-- A call does not change what the renderer is. -/
theorem FillsOrFails.paint {renderer : Renderer} {color : UInt32}
    (hfills : renderer.FillsOrFails color) (surface : Surface) (damage : Damage) :
    (renderer.paint surface damage).2.2.FillsOrFails color := by
  unfold Renderer.paint
  dsimp only
  split <;> exact hfills

/-- A call that succeeds has filled the damage. -/
theorem FillsOrFails.paint_ok {renderer after : Renderer} {color : UInt32}
    (hfills : renderer.FillsOrFails color) {surface painted : Surface} {damage : Damage}
    (hpaint : renderer.paint surface damage = (.ok (), painted, after)) :
    painted = surface.drawAll (fillStrokes color damage) := by
  obtain ⟨failure, hbehaviour⟩ := hfills renderer.calls.length surface damage
  cases failure <;> simp_all [Renderer.paint, fillBehaviour]

/-- A call that fails has drawn nothing. -/
theorem FillsOrFails.paint_error {renderer after : Renderer} {color : UInt32}
    (hfills : renderer.FillsOrFails color) {surface painted : Surface} {damage : Damage}
    {error : RenderError}
    (hpaint : renderer.paint surface damage = (.error error, painted, after)) :
    painted = surface := by
  obtain ⟨failure, hbehaviour⟩ := hfills renderer.calls.length surface damage
  cases failure <;> simp_all [Renderer.paint, fillBehaviour, Surface.drawAll]

end Renderer

/-! ### One output -/

namespace Output

variable {δ : Type} {color : UInt32}

/-- Each pixel of the surface is covered by pending damage or shows the colour. -/
structure Shows (output : Output δ) (color : UInt32) : Prop where
  coherent : output.Coherent
  shown : ∀ framebuffer, output.framebuffer = some framebuffer → ∀ column row : Nat,
    column < output.layout.width.toNat → row < output.layout.height.toNat →
      output.pending.Covers column row ∨
        framebuffer.surface.word column row = Surface.pixelWord output.layout.format color

/-- An output without a surface has no pixels to show. -/
theorem shows_of_not_mapped {output : Output δ} (hcoherent : output.Coherent)
    (hstate : output.state ≠ .mapped) : output.Shows color := by
  refine ⟨hcoherent, ?_⟩
  intro framebuffer hframebuffer
  rw [hcoherent.framebuffer_eq_none hstate] at hframebuffer
  simp at hframebuffer

/-- Damage of the whole output covers every pixel, whatever the memory holds. -/
theorem shows_damageAll {output : Output δ} (hcoherent : output.Coherent) :
    output.damageAll.Shows color := by
  have hafter := coherent_damageAll hcoherent
  by_cases hstate : output.state = .mapped
  · refine ⟨hafter, ?_⟩
    intro framebuffer hframebuffer column row hcolumn hrow
    left
    simp only [damageAll, addDamage, if_pos hstate] at hcolumn hrow ⊢
    rw [Damage.covers_extend]
    exact .inr (Damage.covers_full (Rect.onScreen_of_lt hcolumn hrow))
  · apply shows_of_not_mapped hafter
    rwa [state_damageAll]

/-- Firing the timer changes nothing on the screen. -/
theorem shows_dispatchTimer {output : Output δ} (hshows : output.Shows color) (now : Nat)
    (host : Host) : (output.dispatchTimer now host).2.1.Shows color := by
  have hcoherent := coherent_dispatchTimer hshows.coherent now host
  unfold dispatchTimer at hcoherent ⊢
  split
  · exact hshows
  · next timer hpoll =>
    rw [hpoll] at hcoherent
    exact ⟨hcoherent, hshows.shown⟩

variable [FramebufferDevice δ]

/-- A created output has no surface yet. -/
theorem shows_create {name : String} {device : δ} {source after : ScreenSource}
    {output : Output δ} (hcreate : create name device source = (.ok output, after)) :
    output.Shows color := by
  apply shows_of_not_mapped (coherent_create hcreate)
  cases CreateOutcome.of_eq hcreate with
  | created hanswer hlayout hopen => simp

/-- A disabled output has no surface any more. -/
theorem shows_disable {output : Output δ} (hcoherent : output.Coherent) :
    output.disable.Shows color :=
  shows_of_not_mapped (coherent_disable hcoherent) output.state_disable_ne_mapped

/-- Painting what is pending fills its pixels or keeps it pending. -/
theorem shows_repaintPending {output : Output δ} {renderer : Renderer}
    (hshows : output.Shows color) (hfills : renderer.FillsOrFails color) (now : Nat) :
    (output.repaintPending renderer now).2.1.Shows color := by
  have hcoherent : (output.repaintPending renderer now).2.1.Coherent :=
    coherent_repaint (coherent_takeDamage hshows.coherent) output.pending renderer now
  refine ⟨hcoherent, ?_⟩
  generalize hrepaint : output.repaintPending renderer now = outcome at hcoherent
  have houtcome : RepaintOutcome output.takeDamage.2 output.pending renderer now outcome :=
    .of_eq hrepaint
  cases houtcome with
  | dropped hnone =>
    intro framebuffer hframebuffer
    rw [hnone] at hframebuffer
    simp at hframebuffer
  | @painted framebuffer surface after hframebuffer hpaint =>
    rintro _ ⟨⟩ column row hcolumn hrow
    have hlayout := hshows.coherent.surface_layout framebuffer hframebuffer
    obtain ⟨hfilled, hkept⟩ := framebuffer.surface.word_drawAll_fillStrokes
      (output.pending.clip output.layout.width output.layout.height) color
      (by rwa [hlayout]) (by rwa [hlayout])
    have hon : Rect.OnScreen output.layout.width output.layout.height column row :=
      Rect.onScreen_of_lt hcolumn hrow
    obtain rfl := hfills.paint_ok hpaint
    rw [Damage.covers_clip_of_onScreen hon] at hfilled hkept
    rw [hlayout] at hfilled
    by_cases hcovers : output.pending.Covers column row
    · exact .inr (hfilled hcovers)
    · refine .inr ((hkept hcovers).trans ?_)
      exact (hshows.shown framebuffer hframebuffer column row hcolumn hrow).resolve_left hcovers
  | @failed framebuffer error surface after hframebuffer hpaint =>
    rintro _ ⟨⟩ column row hcolumn hrow
    obtain rfl := hfills.paint_error hpaint
    have hon := Rect.onScreen_of_lt hcolumn hrow
    rcases hshows.shown framebuffer hframebuffer column row hcolumn hrow with hcovers | hword
    · left
      rw [Damage.covers_extend]
      exact .inr ((Damage.covers_clip_of_onScreen hon _).mpr hcovers)
    · exact .inr hword

end Output

/-! ### The outputs of a backend -/

variable {δ : Type} [FramebufferDevice δ]

/-- Every output shows the colour where it is not damaged. -/
def shownLaw (color : UInt32) : OutputLaw δ where
  handed _ := True
  held _ output := output.Shows color
  letGo _ := True
  painting renderer := renderer.FillsOrFails color
  refused _ _ := trivial
  created _ hcreate := Output.shows_create hcreate
  enabled hheld henable := Output.shows_damageAll (hheld.coherent.of_enable henable)
  unusable _ _ := trivial
  disabled hheld := Output.shows_disable hheld.coherent
  reenabled hheld hreenable := Output.shows_damageAll (hheld.coherent.of_reenable hreenable)
  removed _ _ := trivial
  damaged hheld := Output.shows_damageAll hheld.coherent
  repainted hheld _ hpainting now := Output.shows_repaintPending hheld hpainting now
  rendered hpainting surface damage := hpainting.paint surface damage
  dispatched hheld now host := Output.shows_dispatchTimer hheld now host
  destroyed _ := trivial

/-- In every run of a backend with a renderer that fills with one colour or fails, every mapped
output has a surface of its layout, each of whose pixels is covered by pending damage or reads as
the colour; with nothing pending they all do. -/
theorem pending_or_colored {color : UInt32} {renderer : Renderer}
    (hfills : renderer.FillsOrFails color) (source : ScreenSource) (host : Host)
    (steps : List (BackendStep δ)) :
    ∀ output ∈ ((Stage.start source renderer host).run steps).backend.outputs,
      output.state = .mapped → ∃ framebuffer, output.framebuffer = some framebuffer ∧
        framebuffer.surface.layout = output.layout ∧
        ∀ x < output.layout.width, ∀ y < output.layout.height,
          (output.pending.Covers x.toNat y.toNat ∨
            framebuffer.surface.pixel? x y = some (output.layout.format.stored color)) ∧
          (output.pending = .none →
            framebuffer.surface.pixel? x y = some (output.layout.format.stored color)) := by
  intro output houtput hstate
  have hholds := OutputLaw.holds_run ((shownLaw color).holds_start source host hfills) steps
    fun _ _ _ _ ↦ trivial
  have hshows : output.Shows color := hholds.held output houtput
  obtain ⟨framebuffer, hframebuffer, hlayout⟩ := hshows.coherent.exists_framebuffer hstate
  refine ⟨framebuffer, hframebuffer, hlayout, ?_⟩
  intro x hx y hy
  have hpixel : output.pending.Covers x.toNat y.toNat ∨
      framebuffer.surface.pixel? x y = some (output.layout.format.stored color) := by
    apply (hshows.shown framebuffer hframebuffer x.toNat y.toNat hx hy).imp_right
    intro hword
    rw [Surface.pixel?_eq _ (by rwa [hlayout]) (by rwa [hlayout]), hword,
      PixelFormat.ofLittleEndian_pixelWord]
  refine ⟨hpixel, ?_⟩
  intro hnone
  apply hpixel.resolve_left
  rw [hnone]
  exact Damage.not_covers_none _ _

/-- The one output of a screen with pixels of 16 bits shows the low half of the colour once it has
been repainted. -/
theorem colored_after_repaint :
    let renderer := Renderer.solid Renderer.defaultColor fun _ ↦ none
    let descriptor := { ScreenDescriptor.withSize 2 1 with bitsPerPixel := 16, format := .r5g6b5 }
    let stage := (Stage.start (.always (.ok descriptor)) renderer (.atTime 0)).run
      [.addOutput "main" HeapStorage.working, .repaintPending 0]
    renderer.FillsOrFails Renderer.defaultColor ∧ stage.backend.outputs.length = 1 ∧
      ∀ output ∈ stage.backend.outputs, ∃ framebuffer, output.framebuffer = some framebuffer ∧
        framebuffer.surface.pixel? 1 0 = some 0x2020 := by
  intro renderer descriptor stage
  have hfills : renderer.FillsOrFails Renderer.defaultColor := Renderer.fillsOrFails_solid _ _
  refine ⟨hfills, rfl, ?_⟩
  intro output houtput
  have hreached : ∀ output ∈ stage.backend.outputs, output.state = .mapped ∧
      output.pending = .none ∧ output.layout.width = 2 ∧ output.layout.height = 1 ∧
      output.layout.format = .r5g6b5 := by decide +kernel
  obtain ⟨hstate, hpending, hwidth, hheight, hformat⟩ := hreached output houtput
  obtain ⟨framebuffer, hframebuffer, -, hpixels⟩ :=
    pending_or_colored hfills (.always (.ok descriptor)) (.atTime 0) _ output houtput hstate
  rw [hwidth, hheight, hformat] at hpixels
  exact ⟨framebuffer, hframebuffer, (hpixels 1 (by decide) 0 (by decide)).2 hpending⟩

end HeadlessDisplay
