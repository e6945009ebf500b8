import HeadlessDisplay.FileTree
import Mathlib.Data.List.Basic

/-!
# Paths to files

A path that leads to where a regular file can be written goes on leading there when a file is put
there or its contents are replaced: a way leads on over directories and links only, and a regular
file is neither, so the way does not lead over it (`AgreeOff.follow_eq`). The same holds of a
socket, and of a place where nothing is. `LeadsTo` is what a path comes to where a way ends, and
`LeadsTo.of_agree` is the law that storage in a file and sockets rest on. Whether a link at the end
of the path is followed makes no difference to it.

Nothing is said here of what happens to a path when somebody else changes a directory or a link on
the way.
-/

set_option autoImplicit false
set_option relaxedAutoImplicit false

namespace HeadlessDisplay.FileTree

variable {tree : FileTree} {path : String} {place : Place}

/-! ### What is at a place -/

theorem lookup_filter_ne {entries : List (Place × Entry)} {other : Place}
    (hother : other ≠ place) :
    (entries.filter fun entry ↦ entry.1 != place).lookup other = entries.lookup other := by
  induction entries with
  | nil => rfl
  | cons first rest ih =>
    obtain ⟨taken, entry⟩ := first
    by_cases hkept : taken = place
    · subst hkept
      have hmissed : (other == taken) = false := beq_false_of_ne hother
      simp [List.lookup_cons, hmissed, ih]
    · have hpassed : (taken != place) = true := bne_iff_ne.mpr hkept
      rw [List.filter_cons, if_pos hpassed, List.lookup_cons, List.lookup_cons, ih]

/-- An entry that was put at a place is there, and all others are what they were. -/
theorem entry?_put (hplace : place ≠ []) (entry : Entry) (other : Place) :
    FileTree.entry? (tree.put place entry) other =
      if other = place then some entry else tree.entry? other := by
  unfold entry? put
  by_cases hroot : other = []
  · subst hroot
    simp [hplace.symm]
  · have hsome : other.isEmpty = false := by simpa using hroot
    simp only [hsome, Bool.false_eq_true, if_false, List.lookup_cons]
    by_cases hhere : other = place
    · simp [hhere]
    · have hmissed : (other == place) = false := beq_false_of_ne hhere
      simp [hhere, hmissed, lookup_filter_ne hhere]

/-- An entry that was removed is gone, and all others are what they were. -/
theorem entry?_erase (hplace : place ≠ []) (other : Place) :
    FileTree.entry? (tree.erase place) other =
      if other = place then none else tree.entry? other := by
  unfold entry? erase
  by_cases hhere : other = place
  · subst hhere
    have hsome : other.isEmpty = false := by simpa using hplace
    simpa [hsome, List.lookup_eq_none_iff] using fun taken entry _ htaken ↦ Ne.symm htaken
  · simp [hhere, lookup_filter_ne hhere]

/-- A regular file that is written over keeps its permission bits. -/
theorem write_eq_put {contents : Array UInt8} {mode : Nat}
    (hfile : tree.entry? place = some (.file contents mode)) (written : Array UInt8) :
    tree.write place written = tree.put place (.file written mode) := by
  simp only [write, hfile]

/-! ### The way to a place -/

/-- A way goes the same in a tree with the same directories and links to go over and with no links
besides, and it makes no difference whether a link at its end would be followed if there is none. -/
theorem follow_of_passages {after : FileTree} {through followed : Bool} {reached : Place}
    (hpassage : ∀ here entry, tree.entry? here = some entry → entry.isPassage = true →
      after.entry? here = some entry)
    (hlink : ∀ here target, after.entry? here = some (.link target) →
      tree.entry? here = some (.link target))
    (hthrough : through = true → followed = true)
    (hend : followed = through ∨ ∀ target, tree.entry? reached ≠ some (.link target))
    {links : Nat} {start : Place} {names : List String}
    (hfollow : tree.follow through links start names = .ok reached) :
    after.follow followed links start names = .ok reached := by
  -- Along the way in the first tree; the second way takes the same steps.
  fun_induction follow tree through links start names with
  | case1 links here names target hthere hstop =>
    obtain rfl := Except.ok.inj hfollow
    obtain rfl | hnone := hend
    · rw [follow, hpassage here _ hthere rfl]
      exact if_pos hstop
    · exact absurd hthere (hnone target)
  | case3 here names target hthere hgo links ih =>
    rw [follow, hpassage here _ hthere rfl]
    refine (if_neg fun hstop ↦ hgo ?_).trans (ih hfollow)
    cases through <;> simp_all
  | case4 links here hnone =>
    unfold follow
    split
    · next target hthere => exact (hnone target (hlink here target hthere)).elim
    · exact hfollow
  | case7 links here rest hnone hdirectory hshort ih =>
    rw [follow, hpassage here _ hdirectory rfl]
    simpa [hshort] using ih hfollow
  | case8 links here rest hnone hdirectory hshort hdot ih =>
    rw [follow, hpassage here _ hdirectory rfl]
    simpa [hshort] using ih hfollow
  | case9 links here name rest hshort hdot hup hnone hdirectory ih =>
    rw [follow, hpassage here _ hdirectory rfl]
    simpa [hshort, hdot, hup] using ih hfollow
  | case2 | case5 | case6 | case10 => cases hfollow

/-- Two trees have the same entries but for one place, and relative paths start from the same. -/
structure AgreeOff (place : Place) (tree after : FileTree) : Prop where
  workingDirectory_eq : after.workingDirectory = tree.workingDirectory
  entry?_eq : ∀ other, other ≠ place → after.entry? other = tree.entry? other

theorem agreeOff_put (hplace : place ≠ []) (entry : Entry) :
    AgreeOff place tree (tree.put place entry) where
  workingDirectory_eq := rfl
  entry?_eq other hother := by rw [entry?_put hplace, if_neg hother]

theorem agreeOff_erase (hplace : place ≠ []) : AgreeOff place tree (tree.erase place) where
  workingDirectory_eq := rfl
  entry?_eq other hother := by rw [entry?_erase hplace, if_neg hother]

/-- No way leads on over what is at the place. -/
def EndsAt (tree : FileTree) (place : Place) : Prop :=
  ∀ entry, tree.entry? place = some entry → entry.isPassage = false

namespace AgreeOff

variable {after : FileTree} (hagree : AgreeOff place tree after)

include hagree

/-- What a way leads over is in both trees. -/
theorem passage_eq (hends : tree.EndsAt place) {here : Place} {entry : Entry}
    (hthere : tree.entry? here = some entry) (hpassage : entry.isPassage = true) :
    after.entry? here = some entry := by
  have hother : here ≠ place := by
    rintro rfl
    simp [hends entry hthere] at hpassage
  exact (hagree.entry?_eq here hother).trans hthere

/-- A link in the second tree is in the first. -/
theorem link_eq (hafter : after.EndsAt place) {here : Place} {target : String}
    (hlink : after.entry? here = some (.link target)) : tree.entry? here = some (.link target) := by
  have hother : here ≠ place := by
    rintro rfl
    simpa [Entry.isPassage] using hafter _ hlink
  exact (hagree.entry?_eq here hother).symm.trans hlink

/-- A way does not lead over what is neither a directory nor a link, so it does not matter what
becomes of that. -/
theorem follow_eq (hends : tree.EndsAt place) (hafter : after.EndsAt place) {through : Bool}
    {links : Nat} {start reached : Place} {names : List String}
    (hfollow : tree.follow through links start names = .ok reached) :
    after.follow through links start names = .ok reached :=
  follow_of_passages (fun _ _ ↦ hagree.passage_eq hends) (fun _ _ ↦ hagree.link_eq hafter) id
    (.inl rfl) hfollow

end AgreeOff

/-- The path leads to the place, and no way leads on from there. -/
structure LeadsTo (tree : FileTree) (through : Bool) (path : String) (place : Place) : Prop where
  well_formed : path.contains (Char.ofNat 0) = false ∧ path.isEmpty = false ∧
    ¬ 4096 ≤ path.utf8ByteSize
  follow_eq : tree.follow through linkLimit (startOf tree.workingDirectory path) (namesOf path) =
    .ok place
  no_slash : path.endsWith "/" = false
  ends : tree.EndsAt place

variable {through : Bool}

/-- What a path was followed to is what is there, and a slash at its end leaves only what a way can
lead on over. -/
theorem of_locate {entry : Option Entry} {slash : Bool}
    (hlocate : tree.locate through path = .ok ⟨place, entry, slash⟩) :
    tree.entry? place = entry ∧ path.endsWith "/" = slash ∧
      (slash = true → ∀ there, entry = some there → there.isPassage = true) ∧
      (slash = false → tree.EndsAt place → tree.LeadsTo through path place) := by
  unfold locate at hlocate
  by_cases hnul : path.contains (Char.ofNat 0) = true
  · simp [hnul] at hlocate
  by_cases hempty : path.isEmpty = true
  · simp [hnul, hempty] at hlocate
  by_cases hlength : 4096 ≤ path.utf8ByteSize
  · simp [hnul, hempty, hlength] at hlocate
  simp only [hnul, hempty, hlength, if_false, Bool.false_eq_true] at hlocate
  cases hfollow : tree.follow through linkLimit (startOf tree.workingDirectory path)
      (namesOf path) with
  | error code =>
    rw [hfollow] at hlocate
    cases hlocate
  | ok reached =>
    rw [hfollow] at hlocate
    dsimp only at hlocate
    split at hlocate
    · cases hlocate
    · next hpassage =>
      simp only [Except.ok.injEq, Location.mk.injEq] at hlocate
      obtain ⟨rfl, rfl, rfl⟩ := hlocate
      refine ⟨rfl, rfl, fun hslash there hthere ↦ ?_, fun hslash hends ↦ ?_⟩
      · simpa [hslash, hthere] using hpassage
      · exact ⟨⟨by simpa using hnul, by simpa using hempty, hlength⟩, hfollow, hslash, hends⟩

/-- What is found at a path and no way leads on from is where the path itself leads. -/
theorem leadsTo_of_inspect {entry : Entry} {slash : Bool}
    (hinspect : tree.inspect path = .ok ⟨place, some entry, slash⟩)
    (hends : entry.isPassage = false) :
    tree.entry? place = some entry ∧ tree.LeadsTo false path place := by
  obtain ⟨hthere, hslash, hpassage, hleads⟩ := of_locate hinspect
  cases slash with
  | true => simp [hpassage rfl entry rfl] at hends
  | false =>
    rw [hslash] at hleads
    refine ⟨hthere, hleads rfl fun other hother ↦ ?_⟩
    obtain rfl := Option.some.inj (hthere.symm.trans hother)
    exact hends

theorem leadsTo_of_writable (hwritable : tree.writable path = .ok place) :
    tree.LeadsTo true path place := by
  unfold writable at hwritable
  cases hlocate : tree.locate true path with
  | error fault => simp [hlocate] at hwritable
  | ok location =>
    obtain ⟨reached, entry, slash⟩ := location
    obtain ⟨hthere, -, hpassage, hleads⟩ := of_locate hlocate
    rw [hlocate] at hwritable
    rcases entry with _ | ⟨_ | _ | _ | _ | _⟩ <;> cases slash <;>
      simp_all [EndsAt, Entry.isPassage]

namespace LeadsTo

theorem place_ne_nil (hleads : tree.LeadsTo through path place) : place ≠ [] := by
  rintro rfl
  simpa [Entry.isPassage] using hleads.ends .directory rfl

theorem locate_eq (hleads : tree.LeadsTo through path place) :
    tree.locate through path = .ok ⟨place, tree.entry? place, false⟩ := by
  obtain ⟨hnul, hempty, hlength⟩ := hleads.well_formed
  simp [locate, hnul, hempty, hlength, hleads.follow_eq, hleads.no_slash]

/-- A path to where no link is leads there also if a link would be followed. -/
theorem followed (hleads : tree.LeadsTo false path place) : tree.LeadsTo true path place where
  well_formed := hleads.well_formed
  follow_eq := follow_of_passages (fun _ _ hthere _ ↦ hthere) (fun _ _ hthere ↦ hthere)
    (fun hfalse ↦ absurd hfalse (by simp))
    (.inr fun target hlink ↦ by simpa [Entry.isPassage] using hleads.ends _ hlink)
    hleads.follow_eq
  no_slash := hleads.no_slash
  ends := hleads.ends

/-- A path leads to one place. -/
theorem eq_of_locate {other : Place} {entry : Option Entry} {slash : Bool}
    (hleads : tree.LeadsTo through path place)
    (hlocate : tree.locate through path = .ok ⟨other, entry, slash⟩) :
    place = other ∧ tree.entry? place = entry := by
  have hsame := hleads.locate_eq.symm.trans hlocate
  simp only [Except.ok.injEq, Location.mk.injEq] at hsame
  exact ⟨hsame.1, hsame.2.1⟩

/-- A regular file at the end of the path can be written. -/
theorem writable_eq (hleads : tree.LeadsTo true path place) {contents : Array UInt8} {mode : Nat}
    (hfile : tree.entry? place = some (.file contents mode)) : tree.writable path = .ok place := by
  rw [writable, hleads.locate_eq, hfile]

/-- A regular file at the end of the path is what is read through it. -/
theorem file?_eq (hleads : tree.LeadsTo true path place) {contents : Array UInt8} {mode : Nat}
    (hfile : tree.entry? place = some (.file contents mode)) :
    tree.file? path = some (contents, mode) := by
  rw [file?, hleads.locate_eq, hfile]

/-- The path goes on leading to the place whatever is put there, if no way leads on over it. -/
theorem of_agree {after : FileTree} (hleads : tree.LeadsTo through path place)
    (hagree : AgreeOff place tree after) (hends : after.EndsAt place) :
    after.LeadsTo through path place where
  well_formed := hleads.well_formed
  follow_eq := by
    rw [hagree.workingDirectory_eq]
    exact hagree.follow_eq hleads.ends hends hleads.follow_eq
  no_slash := hleads.no_slash
  ends := hends

/-- The path goes on leading to the place when anything is put there that no way leads on over. -/
theorem put_of_ends (hleads : tree.LeadsTo through path place) {entry : Entry}
    (hentry : entry.isPassage = false) : (tree.put place entry).LeadsTo through path place :=
  hleads.of_agree (agreeOff_put hleads.place_ne_nil entry)
    (by simpa [EndsAt, entry?_put hleads.place_ne_nil] using hentry)

/-- The path goes on leading to the place when a regular file is put there. -/
theorem put (hleads : tree.LeadsTo through path place) (contents : Array UInt8) (mode : Nat) :
    (tree.put place (.file contents mode)).LeadsTo through path place :=
  hleads.put_of_ends rfl

/-- The path goes on leading to the place when nothing is left there. -/
theorem erase (hleads : tree.LeadsTo through path place) :
    (tree.erase place).LeadsTo through path place :=
  hleads.of_agree (agreeOff_erase hleads.place_ne_nil)
    (by simp [EndsAt, entry?_erase hleads.place_ne_nil])

/-- Nothing is left at a place that a path led to when that was removed. -/
theorem entry?_erase_self (hleads : tree.LeadsTo through path place) :
    FileTree.entry? (tree.erase place) place = none := by
  rw [entry?_erase hleads.place_ne_nil, if_pos rfl]

end LeadsTo

/-- A path of one name leads to the place of that name below the working directory. -/
theorem locate_one_name (entries : List (Place × Entry)) :
    (⟨entries, []⟩ : FileTree).locate false "f" =
      .ok ⟨["f"], FileTree.entry? ⟨entries, []⟩ ["f"], false⟩ := by
  have hnames : namesOf "f" = ["f"] := by
    rw [namesOf, String.splitOn, if_neg (by decide), String.splitOnAux, if_neg (by decide),
      if_neg (by decide), String.splitOnAux, if_pos (by decide)]
    decide
  have hnul : "f".contains (Char.ofNat 0) = false := by simp
  have hstart : startOf [] "f" = [] := by decide +kernel
  have hends : "f".endsWith "/" = false := by decide +kernel
  have hroot : FileTree.entry? ⟨entries, []⟩ [] = some .directory := rfl
  have hhere : (⟨entries, []⟩ : FileTree).follow false linkLimit ["f"] [] = .ok ["f"] := by
    unfold follow
    split <;> rfl
  have hfollow : (⟨entries, []⟩ : FileTree).follow false linkLimit [] ["f"] = .ok ["f"] := by
    rw [follow, hroot]
    exact hhere
  simp only [locate, hnul, hstart, hends, hnames, hfollow]
  rfl

theorem inspect_one_name (entries : List (Place × Entry)) :
    (⟨entries, []⟩ : FileTree).inspect "f" =
      .ok ⟨["f"], FileTree.entry? ⟨entries, []⟩ ["f"], false⟩ := by
  have hends : "f".endsWith "/" = false := by decide +kernel
  rw [inspect, hends, locate_one_name]

/-- Where nothing is yet, a path of one name leads to the place of that name. -/
theorem leadsTo_of_one_name : (⟨[], []⟩ : FileTree).LeadsTo true "f" ["f"] :=
  ((of_locate (locate_one_name [])).2.2.2 rfl (by simp [EndsAt, entry?])).followed

end HeadlessDisplay.FileTree
