import HeadlessDisplay.Proofs.Output.Custody
import HeadlessDisplay.Proofs.Output.CoherentLife

/-!
# Every mapping comes back

A device hands mappings out and takes them back, and both can be read off the calls made on it.
`Fair` is what an output owes its device at every call: it gives back the mapping that is out, and
it asks for anything else only when none is. It follows that no more than one is ever out.

`Custody.Balanced` says besides which mapping is out at a moment between two operations: the one
that a mapped output holds, and none for any other output. Each act of an output keeps it, so it
holds in every life. `mappings_returned` states this for the whole life and for what follows it:
the output may be dropped at any moment, and then every mapping has come back and the storage has
been closed.
-/

set_option autoImplicit false
set_option relaxedAutoImplicit false

namespace HeadlessDisplay

/-! ### Mappings in a record of calls -/

/-- The token of the mapping that a call hands out. -/
def StorageCall.handedOut? : StorageCall → Option Nat
  | .mapped _ memory => memory.map Prod.fst
  | _ => none

/-- The token of the mapping that a call takes back. -/
def StorageCall.takenBack? : StorageCall → Option Nat
  | .unmapped token => some token
  | _ => none

/-- The tokens of the mappings handed out, in order. -/
def handedOut (calls : List StorageCall) : List Nat :=
  calls.filterMap StorageCall.handedOut?

/-- The tokens of the mappings taken back, in order. -/
def takenBack (calls : List StorageCall) : List Nat :=
  calls.filterMap StorageCall.takenBack?

/-- A mapping is taken back that is out, and anything else is done when none is out. -/
def Fair (early : List StorageCall) : StorageCall → Prop
  | .unmapped token => handedOut early = takenBack early ++ [token]
  | _ => handedOut early = takenBack early

section

variable (calls more : List StorageCall) (layout : Layout) (token : Nat) (success : Bool)

@[simp] theorem handedOut_nil : handedOut [] = [] := rfl

@[simp] theorem handedOut_append :
    handedOut (calls ++ more) = handedOut calls ++ handedOut more :=
  List.filterMap_append

@[simp] theorem handedOut_opened :
    handedOut (.opened layout success :: calls) = handedOut calls := rfl

@[simp] theorem handedOut_mapped (memory : Option (Nat × Nat)) :
    handedOut (.mapped layout memory :: calls) =
      (memory.map Prod.fst).toList ++ handedOut calls := by
  cases memory <;> rfl

@[simp] theorem handedOut_unmapped : handedOut (.unmapped token :: calls) = handedOut calls := rfl

@[simp] theorem handedOut_closed : handedOut (.closed :: calls) = handedOut calls := rfl

@[simp] theorem takenBack_nil : takenBack [] = [] := rfl

@[simp] theorem takenBack_append :
    takenBack (calls ++ more) = takenBack calls ++ takenBack more :=
  List.filterMap_append

@[simp] theorem takenBack_opened :
    takenBack (.opened layout success :: calls) = takenBack calls := rfl

@[simp] theorem takenBack_mapped (memory : Option (Nat × Nat)) :
    takenBack (.mapped layout memory :: calls) = takenBack calls := rfl

@[simp] theorem takenBack_unmapped :
    takenBack (.unmapped token :: calls) = token :: takenBack calls := rfl

@[simp] theorem takenBack_closed : takenBack (.closed :: calls) = takenBack calls := rfl

end

/-- After calls that were all fair, no more than one mapping is out. -/
theorem exists_out_of_inTurn_fair {calls : List StorageCall} (hfair : InTurn Fair calls) :
    ∃ out : Option Nat, handedOut calls = takenBack calls ++ out.toList := by
  rcases List.eq_nil_or_concat calls with rfl | ⟨early, call, rfl⟩
  · exact ⟨none, rfl⟩
  · rw [List.concat_eq_append] at hfair ⊢
    -- The last call alone decides: what it owed says what was out before it.
    have hcall : Fair early call := (inTurn_append_singleton.mp hfair).2
    cases call with
    | opened layout success => exact ⟨none, by simpa [Fair] using hcall⟩
    | mapped layout memory =>
      refine ⟨memory.map Prod.fst, ?_⟩
      have hback : handedOut early = takenBack early := hcall
      simp [hback]
    | unmapped token => exact ⟨none, by simpa [Fair] using hcall⟩
    | closed => exact ⟨none, by simpa [Fair] using hcall⟩

/-! ### Mappings between two operations -/

namespace Custody

/-- Every call was fair, and the mapping that is out, if any, is the one that the output holds
because it is mapped. -/
structure Balanced (custody : Custody) : Prop where
  fair : InTurn Fair custody.calls
  handedOut_eq : handedOut custody.calls = takenBack custody.calls ++ custody.token.toList
  mapped_iff : custody.state = .mapped ↔ custody.token.isSome
  /-- A destroyed output has closed its storage. -/
  closed_last : custody.state = .destroyed → custody.calls.getLast? = some .closed

theorem balanced_created (layout : Layout) : (created layout).Balanced where
  fair := inTurn_singleton.mpr rfl
  handedOut_eq := rfl
  mapped_iff := by simp [created]
  closed_last := by simp [created]

variable {custody after : Custody}

theorem Balanced.token_eq_none (hbalanced : custody.Balanced) (hstate : custody.state ≠ .mapped) :
    custody.token = none := by
  simpa using (not_congr hbalanced.mapped_iff).mp hstate

/-- No mapping is out while the output is not mapped. -/
theorem Balanced.all_back (hbalanced : custody.Balanced) (hstate : custody.state ≠ .mapped) :
    handedOut custody.calls = takenBack custody.calls := by
  have hout := hbalanced.handedOut_eq
  rwa [hbalanced.token_eq_none hstate, Option.toList_none, List.append_nil] at hout

/-- Handing the mapping back is fair, and then none is out. -/
theorem Balanced.handBack (hbalanced : custody.Balanced) :
    InTurn Fair (custody.calls ++ custody.handBack) ∧
      handedOut (custody.calls ++ custody.handBack) =
        takenBack (custody.calls ++ custody.handBack) := by
  have hout := hbalanced.handedOut_eq
  constructor
  · refine inTurn_append_handBack.mpr ⟨hbalanced.fair, ?_⟩
    intro token htoken
    rwa [htoken] at hout
  · unfold Custody.handBack
    cases htoken : custody.token <;> simpa [htoken] using hout

/-- Closing the storage of an output that is not mapped and opening it is fair. -/
theorem Balanced.reopen (hbalanced : custody.Balanced) (hwaiting : custody.Waiting)
    (layout : Layout) (success : Bool) :
    InTurn Fair (custody.calls ++ [.closed, .opened layout success]) ∧
      handedOut (custody.calls ++ [.closed, .opened layout success]) =
        takenBack (custody.calls ++ [.closed, .opened layout success]) := by
  have hback := hbalanced.all_back hwaiting.state_ne_mapped
  constructor
  · exact inTurn_append_pair.mpr ⟨hbalanced.fair, hback, by simpa [Fair] using hback⟩
  · simpa using hback

/-- An output that holds no mapping is balanced once all of them have come back. -/
theorem Balanced.of_all_back (hfair : InTurn Fair custody.calls)
    (hback : handedOut custody.calls = takenBack custody.calls) (hnone : custody.token = none)
    (hstate : custody.state ≠ .mapped)
    (hclosed : custody.state = .destroyed → custody.calls.getLast? = some .closed) :
    custody.Balanced := by
  refine ⟨hfair, ?_, ?_, hclosed⟩
  · rw [hback, hnone, Option.toList_none, List.append_nil]
  · simp [hstate, hnone]

/-- Every act of an output keeps the balance. -/
theorem Balanced.act (hbalanced : custody.Balanced) (hact : custody.Act after) :
    after.Balanced := by
  have hfair := hbalanced.fair
  cases hact with
  | mapFailed hwaiting =>
    have hback := hbalanced.all_back hwaiting.state_ne_mapped
    apply Balanced.of_all_back
    · exact inTurn_append_singleton.mpr ⟨hfair, hback⟩
    · simpa using hback
    · exact hbalanced.token_eq_none hwaiting.state_ne_mapped
    · exact hwaiting.state_ne_mapped
    · intro hdestroyed
      exact absurd hdestroyed hwaiting.state_ne_destroyed
  | mapRejected token size hwaiting =>
    have hback := hbalanced.all_back hwaiting.state_ne_mapped
    apply Balanced.of_all_back
    · exact inTurn_append_pair.mpr ⟨hfair, hback, by simpa [Fair] using hback⟩
    · simpa using hback
    · exact hbalanced.token_eq_none hwaiting.state_ne_mapped
    · exact hwaiting.state_ne_mapped
    · intro hdestroyed
      exact absurd hdestroyed hwaiting.state_ne_destroyed
  | mapped token size hwaiting =>
    have hback := hbalanced.all_back hwaiting.state_ne_mapped
    refine ⟨inTurn_append_singleton.mpr ⟨hfair, hback⟩, ?_, ?_, ?_⟩
    · simpa using hback
    · simp
    · simp
  | reopenFailed layout hwaiting =>
    obtain ⟨hturn, hback⟩ := hbalanced.reopen hwaiting layout false
    have hnone := hbalanced.token_eq_none hwaiting.state_ne_mapped
    exact .of_all_back hturn hback hnone (by simp) (by simp)
  | reopened layout hwaiting =>
    obtain ⟨hturn, hback⟩ := hbalanced.reopen hwaiting layout true
    have hnone := hbalanced.token_eq_none hwaiting.state_ne_mapped
    exact .of_all_back hturn hback hnone (by simp) (by simp)
  | disabled hmapped =>
    obtain ⟨hgiven, hback⟩ := hbalanced.handBack
    exact .of_all_back hgiven hback rfl (by simp) (by simp)
  | destroyed hlive =>
    obtain ⟨hgiven, hback⟩ := hbalanced.handBack
    apply Balanced.of_all_back
    · exact inTurn_append_singleton.mpr ⟨hgiven, hback⟩
    · simpa using hback
    · rfl
    · simp
    · intro hdestroyed
      simp

end Custody

variable {δ : Type} [FramebufferDevice δ]

/-- Whatever succeeds or fails in the life of an output, and whenever it is dropped,

* its device never has more than one mapping out; what it is given back is the mapping that is out,
  and it is closed only when none is;
* between two operations the mapping that is out is the one that a mapped output holds, and none is
  out if the output is not mapped;
* after the output has been destroyed its device is not called again, and there is nothing left to
  do when it is dropped;
* after it has been dropped, every mapping has been taken back, each once and in the order in which
  they were handed out, and the last call was to close the storage. -/
theorem mappings_returned {name : String} {number : Nat} {device : δ} {source after : ScreenSource}
    {output : Output (RecordedStorage δ)}
    (hcreate : Output.create name (.fresh number device) source = (.ok output, after))
    (renderer : Renderer) (host : Host) (steps : List OutputStep) :
    let reached := (Solo.mk output after renderer host).run steps
    let now := reached.output
    let calls := now.device.calls
    let whole := now.drop.device.calls
    (∀ early, early <+: whole →
      ∃ out : Option Nat, handedOut early = takenBack early ++ out.toList) ∧
    (∀ early token, early ++ [.unmapped token] <+: whole →
      handedOut early = takenBack early ++ [token]) ∧
    (∀ early, early ++ [.closed] <+: whole → handedOut early = takenBack early) ∧
    (now.state = .mapped → ∃ framebuffer, now.framebuffer = some framebuffer ∧
      handedOut calls = takenBack calls ++ [framebuffer.token]) ∧
    (now.state ≠ .mapped → handedOut calls = takenBack calls) ∧
    (∀ more, let later := (reached.run (.destroy :: more)).output
      later.device = now.destroy.device ∧ later.drop = later) ∧
    calls <+: whole ∧ handedOut whole = takenBack whole ∧ whole.getLast? = some .closed := by
  intro reached now calls whole
  have hbalanced (steps : List OutputStep) :
      ((Solo.mk output after renderer host).run steps).output.custody.Balanced :=
    Solo.custody_invariant Custody.balanced_created Custody.Balanced.act hcreate renderer host steps
  have hnow : now.custody.Balanced := hbalanced steps
  have hdropped : now.drop.custody.Balanced := by
    have hlonger := hbalanced (steps ++ [.destroy])
    rw [Solo.run, List.foldl_append] at hlonger
    rwa [Output.drop_eq_destroy]
  have hgone : now.drop.state = .destroyed := by
    rw [Output.drop_eq_destroy, Output.state_destroy]
  have hretired : (reached.step .destroy).2.Retired := by
    have hcoherent : now.Coherent := Solo.coherent_run (Output.coherent_create hcreate) steps
    exact ⟨Solo.coherent_step hcoherent .destroy, now.state_destroy⟩
  refine ⟨?_, ?_, ?_, ?_, ?_, ?_, ?_, ?_, hdropped.closed_last hgone⟩
  · intro early hearly
    exact exists_out_of_inTurn_fair (hdropped.fair.of_prefix hearly)
  · intro early token hearly
    exact hdropped.fair early (.unmapped token) hearly
  · intro early hearly
    exact hdropped.fair early .closed hearly
  · intro hmapped
    have hout := hnow.handedOut_eq
    obtain ⟨framebuffer, hframebuffer⟩ : ∃ framebuffer, now.framebuffer = some framebuffer := by
      simpa [Output.custody, Option.isSome_iff_exists] using hnow.mapped_iff.mp hmapped
    refine ⟨framebuffer, hframebuffer, ?_⟩
    simpa [Output.custody, hframebuffer] using hout
  · exact hnow.all_back
  · intro more later
    obtain ⟨hlast, hdevice⟩ := Solo.retired_run hretired more
    have hdestroyed : later.state = .destroyed := hlast.destroyed
    exact ⟨hdevice, if_pos hdestroyed⟩
  · have hreaches := now.reaches_destroy
    rw [← Output.drop_eq_destroy] at hreaches
    exact hreaches.calls_prefix
  · apply hdropped.all_back
    show now.drop.state ≠ .mapped
    rw [hgone]
    decide

/-- An output that was mapped, came back in another mode and is then dropped has had two mappings,
one after the other. -/
theorem two_mappings_returned :
    let narrow := ScreenDescriptor.withSize 2 1
    let wide := ScreenDescriptor.withSize 4 1
    let source : ScreenSource := ⟨fun asked ↦ .ok (if asked = 0 then narrow else wide), 0⟩
    let device := RecordedStorage.fresh 0 HeapStorage.working
    let renderer := Renderer.solid Renderer.defaultColor fun _ ↦ none
    let steps := [.enable, .disable, .disable, .reenable, .repaintPending 0]
    ∃ output after, Output.create "main" device source = (.ok output, after) ∧
      let now := ((Solo.mk output after renderer (.atTime 0)).run steps).output
      let calls := now.device.calls
      let whole := now.drop.device.calls
      now.state = .mapped ∧ handedOut calls = [0, 1] ∧ takenBack calls = [0] ∧
        calls <+: whole ∧ handedOut whole = takenBack whole ∧ whole.getLast? = some .closed := by
  intro narrow wide source device renderer steps
  have hcreate : Output.create "main" device source = (.ok _, _) := rfl
  refine ⟨_, _, hcreate, ?_⟩
  intro now calls whole
  have hstate : now.state = .mapped := by decide +kernel
  have hout : handedOut calls = [0, 1] := by decide +kernel
  have hback : takenBack calls = [0] := by decide +kernel
  simp only [whole, calls, now] at hstate hout hback ⊢
  obtain ⟨-, -, -, -, -, -, hlonger, hall, hclosed⟩ :=
    mappings_returned hcreate renderer (.atTime 0) steps
  exact ⟨hstate, hout, hback, hlonger, hall, hclosed⟩

end HeadlessDisplay
