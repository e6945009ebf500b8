import HeadlessDisplay.CommandLine.Launch
import HeadlessDisplay.Output.HeapStorage
import HeadlessDisplay.Proofs.Backend.AcceptedSizes
import HeadlessDisplay.Proofs.FilePaths
import HeadlessDisplay.Proofs.Output.Outcomes
import HeadlessDisplay.Proofs.Session.Delivery
import HeadlessDisplay.Proofs.Session.FramingEnds

/-!
# Loaded settings can be started with

Settings are checked where they are loaded and used elsewhere: the output asks its screen for a
descriptor and the descriptor for a layout, the session reads frames up to the limit, and the
command line replaces some settings after the check. `Settings.validate_eq_ok_iff` says what the
check asks for. It asks for nothing that the command line can replace (`validate_override`), for the
layout with which a device is opened (`Output.create_of_layout`), and for a limit at which no
greeting is refused (`Session.refused_is_no_greeting`).

How files are read and documents are decoded does not matter for this. `Settings.loadFrom` loads
through any two functions, with any failures, and `Settings.load` is the case of a tree of files and
of TOML (`load_eq_loadFrom`). There are two ways around the document, without a directory for
configurations and without a file in it, and both lead to the defaults, which are sound
(`validate_default`).
-/

set_option autoImplicit false
set_option relaxedAutoImplicit false

namespace HeadlessDisplay

namespace Settings

/-! ### The check -/

/-- Settings are sound exactly if the output's descriptor has a layout and the greeting is within
the frame limit. -/
theorem validate_eq_ok_iff (settings : Settings) :
    settings.validate = .ok () ↔
      (∃ layout, settings.output.descriptor.layout = .ok layout) ∧
        clientHello.length ≤ settings.input.maxFrameLen := by
  constructor
  · intro hsound
    exact ⟨exists_layout hsound, length_clientHello_le hsound⟩
  · rintro ⟨⟨layout, hlayout⟩, hlimit⟩
    simp only [validate, hlayout, if_neg (Nat.not_lt.mpr hlimit)]

theorem validate_default : default.validate = .ok () := rfl

/-- What the command line replaces is not checked. -/
theorem validate_override (settings : Settings) (overrides : Overrides) :
    (settings.override overrides).validate = settings.validate := rfl

theorem checked_of_ok {settings : Settings} (hsound : settings.validate = .ok ()) :
    settings.checked = .ok settings := by
  simp only [checked, hsound]

theorem checked_of_error {settings : Settings} {reason : UnsoundSettings}
    (hunsound : settings.validate = .error reason) :
    settings.checked = .error (.unsound reason) := by
  simp only [checked, hunsound]

/-- Settings that pass are sound, and they are what was checked. -/
theorem of_checked_eq_ok {settings passed : Settings} (hchecked : settings.checked = .ok passed) :
    passed = settings ∧ settings.validate = .ok () := by
  cases hvalidate : settings.validate with
  | ok =>
    rw [checked_of_ok hvalidate] at hchecked
    exact ⟨(Except.ok.inj hchecked).symm, rfl⟩
  | error reason => simp [checked_of_error hvalidate] at hchecked

/-- Settings are refused as unsound exactly if one of the two conditions fails. -/
theorem checked_eq_unsound_iff (settings : Settings) :
    (∃ reason, settings.checked = .error (.unsound reason)) ↔
      (∀ layout, settings.output.descriptor.layout ≠ .ok layout) ∨
        settings.input.maxFrameLen < clientHello.length := by
  have hsound := settings.validate_eq_ok_iff
  rw [← not_iff_not, not_or, not_forall, Nat.not_lt]
  simp only [not_not]
  rw [← hsound]
  cases hvalidate : settings.validate with
  | ok => simp [checked_of_ok hvalidate]
  | error reason => simp [checked_of_error hvalidate]

/-! ### Loading -/

section

variable (contents : String → Except Fault String) (decode : String → Option Settings)

/-- The settings of the document at a path, where files are read and texts are decoded as given. -/
def loadFileFrom (path : String) (required : Bool) : Except SettingsError Settings :=
  match contents path with
  | .ok text =>
    match decode text with
    | some settings => settings.checked
    | none => .error .malformed
  | .error fault =>
    if fault.kind = .notFound ∧ ¬required then checked default
    else .error (.unreadable path fault)

/-- The settings to start with, where files are read and texts are decoded as given. -/
def loadFrom (environment : Environment) (explicit : Option String) :
    Except SettingsError Settings :=
  match explicit, defaultPath environment with
  | some path, _ => loadFileFrom contents decode path true
  | none, .ok path => loadFileFrom contents decode path false
  | none, .error _ => .ok default

end

/-- Settings are loaded from a tree of files and from TOML. -/
theorem load_eq_loadFrom (tree : FileTree) (environment : Environment) (explicit : Option String) :
    load tree environment explicit = loadFrom tree.readText ofText? environment explicit := by
  have hfile (path : String) (required : Bool) :
      loadFile tree path required = loadFileFrom tree.readText ofText? path required := by
    unfold loadFile loadFileFrom
    cases tree.readText path with
    | error fault => rfl
    | ok text => cases hdecoded : ofText? text <;> simp only [parse, hdecoded] <;> rfl
  unfold load loadFrom
  cases explicit with
  | some path => exact hfile path true
  | none =>
    cases defaultPath environment with
    | ok path => exact hfile path false
    | error error => rfl

/-- The path at which a document is looked for, if at any. -/
def soughtPath (environment : Environment) (explicit : Option String) : Option String :=
  explicit <|> (defaultPath environment).toOption

variable {contents : String → Except Fault String} {decode : String → Option Settings}
  {environment : Environment} {explicit : Option String}

/-- Where a document is looked for, that one decides; it may be missing unless it was named. -/
theorem loadFrom_of_sought {path : String} (hsought : soughtPath environment explicit = some path) :
    loadFrom contents decode environment explicit =
      loadFileFrom contents decode path explicit.isSome := by
  unfold soughtPath at hsought
  cases explicit with
  | some named =>
    obtain rfl : named = path := Option.some.inj hsought
    rfl
  | none =>
    cases hpath : defaultPath environment with
    | ok found =>
      rw [hpath] at hsought
      obtain rfl : found = path := Option.some.inj hsought
      simp only [loadFrom, hpath, Option.isSome_none]
    | error error =>
      rw [hpath] at hsought
      exact absurd hsought nofun

/-- Where none is looked for, the settings are the defaults. -/
theorem loadFrom_of_unsought (hsought : soughtPath environment explicit = none) :
    loadFrom contents decode environment explicit = .ok default := by
  unfold soughtPath at hsought
  cases explicit with
  | some named => exact absurd hsought nofun
  | none =>
    cases hpath : defaultPath environment with
    | ok found =>
      rw [hpath] at hsought
      exact absurd hsought nofun
    | error error => simp only [loadFrom, hpath]

/-- Settings from a document are sound. -/
theorem sound_of_loadFileFrom {path : String} {required : Bool} {settings : Settings}
    (hload : loadFileFrom contents decode path required = .ok settings) :
    settings.validate = .ok () := by
  have hpasses {candidate : Settings} (hchecked : candidate.checked = .ok settings) :
      settings.validate = .ok () := by
    obtain ⟨rfl, hsound⟩ := of_checked_eq_ok hchecked
    exact hsound
  unfold loadFileFrom at hload
  split at hload
  · split at hload
    · exact hpasses hload
    · simp at hload
  · split at hload
    · exact hpasses hload
    · simp at hload

/-- Settings that were loaded in whatever way are sound. -/
theorem sound_of_loadFrom {settings : Settings}
    (hload : loadFrom contents decode environment explicit = .ok settings) :
    settings.validate = .ok () := by
  cases hsought : soughtPath environment explicit with
  | some path => exact sound_of_loadFileFrom ((loadFrom_of_sought hsought).symm.trans hload)
  | none =>
    obtain rfl : default = settings :=
      Except.ok.inj ((loadFrom_of_unsought hsought).symm.trans hload)
    exact validate_default

/-- A document that is decoded is checked, and that is all. -/
theorem loadFrom_of_decoded {path text : String} {settings : Settings}
    (hsought : soughtPath environment explicit = some path) (htext : contents path = .ok text)
    (hdecode : decode text = some settings) :
    loadFrom contents decode environment explicit = settings.checked := by
  simp only [loadFrom_of_sought hsought, loadFileFrom, htext, hdecode]

/-- A document that is not there is a failure if it was named, and stands for the defaults if
not. -/
theorem loadFrom_of_missing {path : String} {fault : Fault}
    (hsought : soughtPath environment explicit = some path)
    (hmissing : contents path = .error fault) (hkind : fault.kind = .notFound) :
    loadFrom contents decode environment explicit =
      if explicit = none then .ok default else .error (.unreadable path fault) := by
  simp only [loadFrom_of_sought hsought, loadFileFrom, hmissing, hkind,
    checked_of_ok validate_default]
  cases explicit <;> simp

end Settings

/-! ### What sound settings are used for -/

/-- Where the screen's descriptor has a layout, an output is created over a device exactly as far
as the device can be opened at it. -/
theorem Output.create_of_layout {δ : Type} [FramebufferDevice δ] {descriptor : ScreenDescriptor}
    {layout : Layout} (hlayout : descriptor.layout = .ok layout) (name : String) (device : δ) :
    (create name device (.always (ConfiguredScreen.answer ⟨descriptor⟩))).1 =
      match FramebufferDevice.openAt device layout with
      | (.error failure, left) => .error (.storage failure, left)
      | (.ok (), opened) =>
        .ok { name, device := opened, descriptor, layout, framebuffer := none, state := .unopened,
              timer := .ofRefresh descriptor.refreshMhz, pending := .none } := by
  simp only [create, ScreenSource.ask, ScreenSource.always, ConfiguredScreen.answer, hlayout]
  split <;> simp_all

/-- Where the greeting is within the limit, a run that ends for its framing does not end at a
greeting: the header that it refuses declares more, and on a steady stream no greeting is there. -/
theorem Session.refused_is_no_greeting {κ : Type} [InputSink κ] {limit : Nat}
    (hlimit : clientHello.length ≤ limit) (session : Session) (sink : κ) (transport : Transport)
    {error : FrameError}
    (hending : (run limit session sink transport).1.ending = .framing error) :
    ∃ stop rest, Incoming.ReadsTo limit transport.incoming stop ∧
      stop.readFrame limit = (.error (.framing error), rest) ∧
      (∃ declared, error = .oversized declared limit ∧ clientHello.length < declared) ∧
      (transport.incoming.Steady → ¬Frame.ofPayload clientHello <+: stop.octets) := by
  obtain ⟨stop, rest, hreads, hrefused⟩ :=
    refused_of_ending_framing session sink transport hending
  obtain ⟨declared, hexceeds, rfl⟩ := Incoming.oversized_of_readFrame hrefused
  refine ⟨stop, rest, hreads, hrefused, ⟨declared, rfl, hlimit.trans_lt hexceeds⟩, ?_⟩
  intro hsteady
  exact (hsteady.readsTo hreads).not_prefix_of_refused hrefused hlimit (by decide)

/-- What is started with settings can rely on them. -/
structure Settings.Startable (δ κ : Type) [FramebufferDevice δ] [InputSink κ]
    (settings : Settings) : Prop where
  /-- The settings pass the check. -/
  sound : settings.validate = .ok ()
  /-- The screen's descriptor has a layout, and an output over any device is created as far as the
  device can be opened at it: neither the screen nor the descriptor is at fault if it is not. -/
  created : ∃ layout, settings.output.descriptor.layout = .ok layout ∧
    ∀ (name : String) (device : δ),
      (Output.create name device (.always (ConfiguredScreen.answer ⟨settings.output.descriptor⟩))).1
        = match FramebufferDevice.openAt device layout with
          | (.error failure, left) => .error (.storage failure, left)
          | (.ok (), opened) =>
            .ok { name, device := opened, descriptor := settings.output.descriptor, layout,
                  framebuffer := none, state := .unopened,
                  timer := .ofRefresh settings.output.descriptor.refreshMhz, pending := .none }
  /-- A session, whatever it has done, that ends for its framing does so at a header that declares
  more than a greeting has, and on a steady stream no greeting is there. -/
  greeted : ∀ (session : Session) (sink : κ) (transport : Transport) (error : FrameError),
    (session.run settings.input.maxFrameLen sink transport).1.ending = .framing error →
    ∃ stop rest, Incoming.ReadsTo settings.input.maxFrameLen transport.incoming stop ∧
      stop.readFrame settings.input.maxFrameLen = (.error (.framing error), rest) ∧
      (∃ declared, error = .oversized declared settings.input.maxFrameLen ∧
        clientHello.length < declared) ∧
      (transport.incoming.Steady → ¬Frame.ofPayload clientHello <+: stop.octets)

/-- Sound settings can be started with. -/
theorem Settings.startable_of_sound {δ κ : Type} [FramebufferDevice δ] [InputSink κ]
    {settings : Settings} (hsound : settings.validate = .ok ()) : settings.Startable δ κ := by
  obtain ⟨⟨layout, hlayout⟩, hlimit⟩ := settings.validate_eq_ok_iff.mp hsound
  refine ⟨hsound, ⟨layout, hlayout, Output.create_of_layout hlayout⟩, ?_⟩
  intro session sink transport error hending
  exact Session.refused_is_no_greeting hlimit session sink transport hending

/-- However files are read and documents are decoded, in any environment and with or without a path
for the document,

* settings that are loaded can be started with, over any devices and sinks, and so they can after
  everything that the command line replaces;
* a document that is decoded is refused as unsound exactly if its output has no layout or its limit
  does not admit a greeting, and is loaded otherwise;
* a document that is not there stands for the defaults exactly if its path was not given, and is a
  failure if it was; where none is looked for the settings are the defaults.

Settings are loaded like that from every tree of files. -/
theorem loaded_settings_start {δ κ : Type} [FramebufferDevice δ] [InputSink κ]
    (contents : String → Except Fault String) (decode : String → Option Settings)
    (environment : Environment) (explicit : Option String) :
    let loaded := Settings.loadFrom contents decode environment explicit
    let sought := Settings.soughtPath environment explicit
    (∀ settings, loaded = .ok settings →
      ∀ overrides : Overrides, (settings.override overrides).Startable δ κ) ∧
    (∀ path text settings, sought = some path → contents path = .ok text →
      decode text = some settings →
      ((∃ reason, loaded = .error (.unsound reason)) ↔
        (∀ layout, settings.output.descriptor.layout ≠ .ok layout) ∨
          settings.input.maxFrameLen < clientHello.length) ∧
      (settings.validate = .ok () → loaded = .ok settings)) ∧
    (∀ path fault, sought = some path → contents path = .error fault → fault.kind = .notFound →
      (loaded = .ok .default ↔ explicit = none) ∧
      (explicit ≠ none → loaded = .error (.unreadable path fault))) ∧
    (sought = none → loaded = .ok .default) ∧
    ∀ tree : FileTree, tree.readText = contents → Settings.ofText? = decode →
      Settings.load tree environment explicit = loaded := by
  intro loaded sought
  refine ⟨?sound, ?decoded, ?missing, Settings.loadFrom_of_unsought, ?tree⟩
  case sound =>
    intro settings hload overrides
    exact Settings.startable_of_sound
      ((settings.validate_override overrides).trans (Settings.sound_of_loadFrom hload))
  case decoded =>
    intro path text settings hsought htext hdecode
    have hloaded : loaded = settings.checked := Settings.loadFrom_of_decoded hsought htext hdecode
    rw [hloaded]
    exact ⟨settings.checked_eq_unsound_iff, Settings.checked_of_ok⟩
  case missing =>
    intro path fault hsought hmissing hkind
    have hloaded : loaded = if explicit = none then .ok .default
        else .error (.unreadable path fault) :=
      Settings.loadFrom_of_missing hsought hmissing hkind
    rw [hloaded]
    split <;> simp_all
  case tree =>
    rintro tree rfl rfl
    exact Settings.load_eq_loadFrom tree environment explicit

/-- A document that only sets the frame limit, to that of a greeting, is loaded from its file, and
the settings can be started with. -/
theorem loaded_from_named_file :
    let text := "[input]\nmax_frame_len = 11\n"
    let tree := (⟨[], []⟩ : FileTree).put ["f"] (.file text.toUTF8.data 0o644)
    let limited : Settings :=
      { Settings.default with input := { InputSettings.default with maxFrameLen := 11 } }
    Settings.load tree ⟨[]⟩ (some "f") = .ok limited ∧
      limited.Startable HeapStorage RecordingSink := by
  intro text tree limited
  have hread : tree.read "f" = .ok text.toUTF8.data := by
    rw [FileTree.read, (FileTree.leadsTo_of_one_name.put text.toUTF8.data 0o644).locate_eq]
    rfl
  have htext : tree.readText "f" = .ok text := by
    have hdecoded : String.fromUTF8? text.toUTF8 = some text := by decide +kernel
    simp only [FileTree.readText, hread, hdecoded]
  have hdecode : Settings.ofText? text = some limited := by decide +kernel
  obtain ⟨hstart, hdecoded, -, -, htree⟩ :=
    loaded_settings_start (δ := HeapStorage) (κ := RecordingSink) tree.readText Settings.ofText?
      ⟨[]⟩ (some "f")
  have hloaded := (hdecoded "f" text limited rfl htext hdecode).2 (by decide +kernel)
  exact ⟨(htree tree rfl rfl).trans hloaded, hstart limited hloaded ⟨none, none, none⟩⟩

end HeadlessDisplay
