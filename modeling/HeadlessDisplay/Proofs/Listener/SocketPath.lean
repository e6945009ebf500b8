import HeadlessDisplay.Listener.Socket
import HeadlessDisplay.Proofs.FilePaths

/-!
# What listeners remove

A listener is bound at a path that others may use, too: other listeners, one after the other or at
the same time, and programs that know nothing of listeners. The system may refuse any call of any
listener. Binding leaves the tree as it is, removes a socket that it finds, whoever made it, or puts
a socket where nothing else is (`BindOutcome`); a listener that is dropped removes what is at its
path. Over a run of binds and drops with anything in between done by others, `PathMove.losses` lists
what the listeners removed. Everything else is still there (`kept_or_lost_run`), no directory is
ever listed, and a bind is listed with sockets only.

What a listener asks to be removed stays if the system refuses: a bind gives up then, and a drop
takes no notice. Both leave the whole tree as it is.

Between its bind and its drop the path of a listener leads to its own socket or to nothing, as long
as nobody but a listener that is dropped changes what the path leads to (`ownOrVacant_run`). So its
drop is listed with its own socket or not at all. Nothing is said of what a drop removes where
something else came to the path after the bind.

A bind is one move here: nobody acts between its check of the path and its use. A socket names the
listener that it was made for, also when that listener is gone; neither a bind nor a drop asks.
-/

set_option autoImplicit false
set_option relaxedAutoImplicit false

namespace HeadlessDisplay

/-- The entry is a socket. -/
def Entry.isSocket : Entry → Bool
  | .socket .. => true
  | .file .. | .directory | .link _ | .special => false

/-- No way leads on over a socket. -/
theorem Entry.isPassage_of_isSocket {entry : Entry} (hsocket : entry.isSocket = true) :
    entry.isPassage = false := by
  cases entry <;> simp_all [isSocket, isPassage]

/-- A call succeeds if it is not refused and what is at the path allows it. -/
theorem SocketSystem.answer_eq_ok {α : Type} {system : SocketSystem} {call : SocketCall}
    {result : Except Fault α} {value : α} :
    system.answer call result = .ok value ↔ system.refusal call = none ∧ result = .ok value := by
  cases hrefusal : system.refusal call <;> simp [answer, hrefusal]

namespace SocketFile

variable {system : SocketSystem} {tree cleared : FileTree} {path : String} {place : Place}
  {entry : Entry} {slash : Bool} {mode listener : Nat}

/-! ### What is found at the path -/

/-- What is found is there, if the system says what is there. -/
theorem inspect_of_found {location : FileTree.Location}
    (hfound : found system tree path = .ok location) : tree.inspect path = .ok location :=
  (SocketSystem.answer_eq_ok.mp hfound).2

/-- A socket that is found is where the path leads. -/
theorem leadsTo_of_found (hfound : found system tree path = .ok ⟨place, some entry, slash⟩)
    (hsocket : entry.isSocket = true) :
    tree.entry? place = some entry ∧ tree.LeadsTo false path place :=
  FileTree.leadsTo_of_inspect (inspect_of_found hfound) (Entry.isPassage_of_isSocket hsocket)

theorem removeStale_of_other (hfound : found system tree path = .ok ⟨place, some entry, slash⟩)
    (hother : entry.isSocket = false) :
    removeStale system tree path =
      .error (.described .alreadyExists "path exists and is not a socket") := by
  cases entry <;> simp_all [removeStale, Entry.isSocket]

/-- A socket that is found is removed if the system allows it. -/
theorem removeStale_of_socket (hfound : found system tree path = .ok ⟨place, some entry, slash⟩)
    (hsocket : entry.isSocket = true) :
    removeStale system tree path = system.answer .remove (.ok (tree.erase place)) := by
  cases entry <;> simp_all [removeStale, Entry.isSocket]

/-- What is in the way is removed if it is a socket that the path leads to, or nothing changes. -/
theorem removeStale_cases (hstale : removeStale system tree path = .ok cleared) :
    cleared = tree ∨ ∃ place entry, tree.LeadsTo false path place ∧
      tree.entry? place = some entry ∧ entry.isSocket = true ∧ cleared = tree.erase place := by
  cases hfound : found system tree path with
  | error fault =>
    simp only [removeStale, hfound] at hstale
    split at hstale
    · exact .inl (Except.ok.inj hstale).symm
    · simp at hstale
  | ok location =>
    obtain ⟨place, entry, slash⟩ := location
    cases entry with
    | none =>
      simp only [removeStale, hfound] at hstale
      exact .inl (Except.ok.inj hstale).symm
    | some entry =>
      cases hsocket : entry.isSocket with
      | false => simp [removeStale_of_other hfound hsocket] at hstale
      | true =>
        rw [removeStale_of_socket hfound hsocket] at hstale
        have herased := (SocketSystem.answer_eq_ok.mp hstale).2
        obtain ⟨hthere, hleads⟩ := leadsTo_of_found hfound hsocket
        exact .inr ⟨place, entry, hleads, hthere, hsocket, (Except.ok.inj herased).symm⟩

/-! ### Binding -/

/-- What is removed before it is replaced need not be. -/
theorem put_erase (tree : FileTree) (place : Place) (entry : Entry) :
    (tree.erase place).put place entry = tree.put place entry := by
  simp [FileTree.put, FileTree.erase, List.filter_filter]

/-- A socket can be made where a path leads to nothing. -/
theorem vacancy_eq (hleads : tree.LeadsTo false path place) (hvacant : tree.entry? place = none) :
    vacancy tree path = .ok place := by
  simp [vacancy, hleads.locate_eq, hvacant]

theorem of_vacancy (hvacancy : vacancy tree path = .ok place) :
    tree.LeadsTo false path place ∧ tree.entry? place = none := by
  unfold vacancy at hvacancy
  split at hvacancy
  · simp at hvacancy
  · simp at hvacancy
  · next here slash hlocate =>
    split at hvacancy
    · simp at hvacancy
    · next hends =>
      obtain ⟨hnothing, -, -, hleads⟩ := FileTree.of_locate hlocate
      obtain rfl := Except.ok.inj hvacancy
      exact ⟨hleads (by simpa using hends) (by simp [FileTree.EndsAt, hnothing]), hnothing⟩

/-- The socket that a bind leaves, by how the bind goes. -/
def leftBy (listener mode : Nat) : Except BindError Unit → Option Entry
  | .ok () => some (own listener mode)
  | .error error =>
    match error.step with
    | .unlink | .create | .address | .bind => none
    | .listen => some (abandoned .listen mode)
    | .chmod => some (abandoned .chmod mode)
    | .register => some (abandoned .register mode)

/-- Only sockets are left by a bind. -/
theorem isSocket_of_leftBy {result : Except BindError Unit} {left : Entry}
    (hleft : leftBy listener mode result = some left) : left.isSocket = true := by
  cases result with
  | ok => exact Option.some.inj hleft ▸ rfl
  | error error =>
    simp only [leftBy] at hleft
    split at hleft
    all_goals first
      | exact Option.some.inj hleft ▸ rfl
      | simp at hleft

/-- A bind that gives up after the socket was made leaves that. -/
theorem leftBy_of_firstRefused {call : SocketCall} {fault : Fault}
    (hrefused : system.firstRefused [.listen, .chmod, .register] = some (call, fault)) :
    leftBy listener mode (.error ⟨call.step, path, fault⟩) = some (abandoned call mode) := by
  obtain ⟨asked, hasked, hsome⟩ := List.exists_of_findSome?_eq_some hrefused
  obtain ⟨why, -, hcall⟩ := Option.map_eq_some_iff.mp hsome
  obtain rfl := (Prod.mk.inj hcall).1
  simp only [List.mem_cons, List.not_mem_nil, or_false] at hasked
  rcases hasked with rfl | rfl | rfl <;> rfl

theorem bindUnder_of_refused (mode listener : Nat) {fault : Fault}
    (hstale : removeStale system tree path = .error fault) :
    bindUnder system tree path mode listener = (.error ⟨.unlink, path, fault⟩, tree) := by
  simp only [bindUnder, hstale]

/-- What becomes of a bind when nothing is in the way any more. -/
inductive Attempt (cleared : FileTree) (path : String) (mode listener : Nat) :
    Except BindError Unit × FileTree → Prop
  /-- The path stays without a socket. -/
  | barred {error : BindError}
      (hnone : path.isEmpty = false → leftBy listener mode (.error error) = none) :
    Attempt cleared path mode listener (.error error, cleared)
  /-- A socket is made, and it stays whether or not the rest goes well. -/
  | made {place : Place} {result : Except BindError Unit} {left : Entry}
      (hvacancy : vacancy cleared path = .ok place)
      (hleft : leftBy listener mode result = some left) :
    Attempt cleared path mode listener (result, cleared.put place left)

theorem attempt (mode listener : Nat) (hstale : removeStale system tree path = .ok cleared) :
    Attempt cleared path mode listener (bindUnder system tree path mode listener) := by
  simp only [bindUnder, hstale]
  split
  · exact .barred fun _ ↦ rfl
  · split
    · exact .barred fun _ ↦ rfl
    · split
      · next hempty => split <;> exact .barred fun hsome ↦ by simp [hempty] at hsome
      · split
        · exact .barred fun _ ↦ rfl
        · next place hanswer =>
          have hvacancy := (SocketSystem.answer_eq_ok.mp hanswer).2
          split
          · next call fault hrefused => exact .made hvacancy (leftBy_of_firstRefused hrefused)
          · exact .made hvacancy rfl

/-- What binding does to the tree. -/
inductive BindOutcome (tree : FileTree) (path : String) : FileTree → Prop
  | kept : BindOutcome tree path tree
  /-- A socket was there and was removed, and there is none now. -/
  | cleared {place : Place} {entry : Entry} (hleads : tree.LeadsTo false path place)
      (hthere : tree.entry? place = some entry) (hsocket : entry.isSocket = true) :
    BindOutcome tree path (tree.erase place)
  /-- A socket was made, instead of one that was there. -/
  | made {place : Place} {left : Entry} (hleads : tree.LeadsTo false path place)
      (hothers : ∀ entry, tree.entry? place = some entry → entry.isSocket = true)
      (hsocket : left.isSocket = true) :
    BindOutcome tree path (tree.put place left)

/-- Where a socket was removed is then what the bind made. -/
theorem bindUnder_of_erased (mode listener : Nat) (hleads : tree.LeadsTo false path place)
    (hstale : removeStale system tree path = .ok (tree.erase place)) :
    let bound := bindUnder system tree path mode listener
    bound.2 = match leftBy listener mode bound.1 with
      | none => tree.erase place
      | some left => tree.put place left := by
  have hattempt := attempt mode listener hstale
  generalize bindUnder system tree path mode listener = bound at hattempt ⊢
  cases hattempt with
  | barred hnone => simp only [hnone hleads.well_formed.2.1]
  | made hvacancy hleft =>
    rw [vacancy_eq hleads.erase hleads.entry?_erase_self] at hvacancy
    obtain rfl := Except.ok.inj hvacancy
    simp only [hleft, put_erase]

/-- Every bind does one of these. -/
theorem bindOutcome (system : SocketSystem) (tree : FileTree) (path : String)
    (mode listener : Nat) :
    BindOutcome tree path (bindUnder system tree path mode listener).2 := by
  cases hstale : removeStale system tree path with
  | error fault =>
    rw [bindUnder_of_refused mode listener hstale]
    exact .kept
  | ok cleared =>
    obtain rfl | ⟨place, entry, hleads, hthere, hsocket, rfl⟩ := removeStale_cases hstale
    · have hattempt := attempt mode listener hstale
      generalize bindUnder system cleared path mode listener = bound at hattempt
      cases hattempt with
      | barred hnone => exact .kept
      | made hvacancy hleft =>
        obtain ⟨hleads, hnothing⟩ := of_vacancy hvacancy
        exact .made hleads (by simp [hnothing]) (isSocket_of_leftBy hleft)
    · rw [bindUnder_of_erased mode listener hleads hstale]
      split
      · exact .cleared hleads hthere hsocket
      · next left hleft =>
        refine .made hleads (fun other hother ↦ ?_) (isSocket_of_leftBy hleft)
        obtain rfl := Option.some.inj (hthere.symm.trans hother)
        exact hsocket

/-- A bound path leads to the socket that was made. -/
theorem own_of_bindUnder {bound : FileTree}
    (hbind : bindUnder system tree path mode listener = (.ok (), bound)) :
    ∃ place, bound.LeadsTo false path place ∧ bound.entry? place = some (own listener mode) := by
  cases hstale : removeStale system tree path with
  | error fault => simp [bindUnder_of_refused mode listener hstale] at hbind
  | ok cleared =>
    have hattempt := attempt mode listener hstale
    rw [hbind] at hattempt
    cases hattempt with
    | made hvacancy hleft =>
      obtain rfl := Option.some.inj hleft
      obtain ⟨hleads, -⟩ := of_vacancy hvacancy
      refine ⟨_, hleads.put_of_ends rfl, ?_⟩
      rw [FileTree.entry?_put hleads.place_ne_nil, if_pos rfl]

/-- Of a socket that is found nothing is left but what the bind makes, if it is removed. -/
theorem entry?_bindUnder_of_socket (mode listener : Nat)
    (hfound : found system tree path = .ok ⟨place, some entry, slash⟩)
    (hsocket : entry.isSocket = true) (hallowed : system.refusal .remove = none) :
    let bound := bindUnder system tree path mode listener
    FileTree.entry? bound.2 place = leftBy listener mode bound.1 := by
  intro bound
  obtain ⟨-, hleads⟩ := leadsTo_of_found hfound hsocket
  have hstale : removeStale system tree path = .ok (tree.erase place) := by
    rw [removeStale_of_socket hfound hsocket, SocketSystem.answer, hallowed]
  have hafter : bound.2 = _ := bindUnder_of_erased mode listener hleads hstale
  rw [hafter]
  split
  · next hleft => exact hleads.entry?_erase_self.trans hleft.symm
  · next left hleft => rw [hleft, FileTree.entry?_put hleads.place_ne_nil, if_pos rfl]

/-! ### Dropping -/

/-- What a path leads to is removed if the system allows it. -/
theorem unbindUnder_eq (hleads : tree.LeadsTo false path place) :
    unbindUnder system tree path =
      if (tree.entry? place).isSome ∧ system.refusal .remove = none then tree.erase place
      else tree := by
  unfold unbindUnder
  rw [hleads.locate_eq]
  cases hentry : tree.entry? place with
  | none => simp
  | some entry =>
    have hfree : entry ≠ .directory := by
      rintro rfl
      simpa [Entry.isPassage] using hleads.ends _ hentry
    cases system.refusal .remove <;> simp [hfree]

/-- Nothing changes where the system does not allow to remove what is at the path. -/
theorem unbindUnder_of_refused (tree : FileTree) (path : String) {fault : Fault}
    (hrefused : system.refusal .remove = some fault) : unbindUnder system tree path = tree := by
  unfold unbindUnder
  split
  · rw [if_pos (.inr (by simp [hrefused]))]
  · rfl

/-- Dropping leaves the tree as it is or removes what the path names, which is no directory. -/
theorem unbindUnder_cases (system : SocketSystem) (tree : FileTree) (path : String) :
    unbindUnder system tree path = tree ∨ ∃ place entry,
      tree.locate false path = .ok ⟨place, some entry, false⟩ ∧ entry ≠ .directory ∧
        unbindUnder system tree path = tree.erase place := by
  unfold unbindUnder
  split
  · next place entry hlocate =>
    split
    · exact .inl rfl
    · next hallowed =>
      exact .inr ⟨place, entry, hlocate, fun hdirectory ↦ hallowed (.inl hdirectory), rfl⟩
  · exact .inl rfl

end SocketFile

/-! ### Moves -/

/-- What happens at the path of listeners. -/
inductive PathMove
  /-- A listener is bound, and its socket is to have these permission bits. -/
  | bind (listener mode : Nat) (system : SocketSystem)
  /-- A listener is dropped. -/
  | drop (listener : Nat) (system : SocketSystem)
  /-- Others make the tree this one. -/
  | others (after : FileTree)

/-- What a listener removed, and the move in which it did. -/
structure Loss where
  move : PathMove
  place : Place
  entry : Entry

namespace PathMove

variable {path : String} {tree : FileTree} {move : PathMove} {place : Place} {entry : Entry}

/-- The tree after a move. -/
def after (path : String) (tree : FileTree) : PathMove → FileTree
  | .bind listener mode system => (SocketFile.bindUnder system tree path mode listener).2
  | .drop _ system => SocketFile.unbindUnder system tree path
  | .others after => after

/-- The tree after some moves. -/
def run (path : String) (tree : FileTree) (moves : List PathMove) : FileTree :=
  moves.foldl (after path) tree

/-- What a move of a listener removes of what the path names. -/
def loss? (path : String) (tree : FileTree) (move : PathMove) : Option Loss :=
  match move, tree.locate false path with
  | .bind .., .ok ⟨place, some entry, _⟩ | .drop .., .ok ⟨place, some entry, _⟩ =>
    if FileTree.entry? (move.after path tree) place = some entry then none
    else some ⟨move, place, entry⟩
  | _, _ => none

/-- What the listeners remove in the course of some moves, in order. -/
def losses (path : String) : FileTree → List PathMove → List Loss
  | _, [] => []
  | tree, move :: rest => (move.loss? path tree).toList ++ losses path (move.after path tree) rest

/-- A move of a listener changes nothing but what the path names, and no directory. -/
theorem after_agrees (path : String) (tree : FileTree) (move : PathMove) :
    (∃ after, move = .others after) ∨ move.after path tree = tree ∨
      ∃ place, tree.locate false path = .ok ⟨place, tree.entry? place, false⟩ ∧
        tree.entry? place ≠ some .directory ∧
        FileTree.AgreeOff place tree (move.after path tree) := by
  have hends {place : Place} (hleads : tree.LeadsTo false path place) :
      tree.entry? place ≠ some .directory :=
    fun hdirectory ↦ by simpa [Entry.isPassage] using hleads.ends _ hdirectory
  cases move with
  | bind listener mode system =>
    have houtcome := SocketFile.bindOutcome system tree path mode listener
    simp only [after]
    generalize (SocketFile.bindUnder system tree path mode listener).2 = left at houtcome
    refine .inr ?_
    cases houtcome with
    | kept => exact .inl rfl
    | cleared hleads hthere hsocket =>
      exact .inr ⟨_, hleads.locate_eq, hends hleads, FileTree.agreeOff_erase hleads.place_ne_nil⟩
    | made hleads hothers hsocket =>
      exact .inr ⟨_, hleads.locate_eq, hends hleads, FileTree.agreeOff_put hleads.place_ne_nil _⟩
  | drop listener system =>
    obtain hsame | ⟨place, entry, hlocate, hfree, herased⟩ :=
      SocketFile.unbindUnder_cases system tree path
    · exact .inr (.inl hsame)
    · obtain ⟨hentry, -⟩ := FileTree.of_locate hlocate
      have hplace : place ≠ [] := by
        rintro rfl
        exact hfree (Option.some.inj hentry).symm
      refine .inr (.inr ⟨place, hentry.symm ▸ hlocate, by simpa [hentry] using hfree, ?_⟩)
      rw [after, herased]
      exact FileTree.agreeOff_erase hplace
  | others after => exact .inl ⟨after, rfl⟩

/-- What is lost was there, and is there no more. -/
theorem of_loss? {loss : Loss} (hloss : move.loss? path tree = some loss) :
    loss.move = move ∧ (∀ after, move ≠ .others after) ∧
      (∃ slash, tree.locate false path = .ok ⟨loss.place, some loss.entry, slash⟩) ∧
      FileTree.entry? (move.after path tree) loss.place ≠ some loss.entry := by
  unfold loss? at hloss
  split at hloss
  · next hlocate =>
    split at hloss
    · simp at hloss
    · next hgone =>
      obtain rfl := Option.some.inj hloss
      exact ⟨rfl, by simp, ⟨_, hlocate⟩, hgone⟩
  · next hlocate =>
    split at hloss
    · simp at hloss
    · next hgone =>
      obtain rfl := Option.some.inj hloss
      exact ⟨rfl, by simp, ⟨_, hlocate⟩, hgone⟩
  · simp at hloss

/-- What a move of a listener removes is listed, at whatever place it was. -/
theorem kept_or_lost (hmove : ∀ after, move ≠ .others after)
    (hthere : tree.entry? place = some entry) :
    FileTree.entry? (move.after path tree) place = some entry ∨
      move.loss? path tree = some ⟨move, place, entry⟩ := by
  obtain ⟨after, hothers⟩ | hsame | ⟨changed, hlocate, -, hagree⟩ := after_agrees path tree move
  · exact absurd hothers (hmove after)
  · exact .inl (hsame.symm ▸ hthere)
  · by_cases hhere : place = changed
    · subst hhere
      by_cases hkept : FileTree.entry? (move.after path tree) place = some entry
      · exact .inl hkept
      · rw [hthere] at hlocate
        refine .inr ?_
        cases move with
        | bind | drop => simp only [loss?, hlocate, if_neg hkept]
        | others after => exact absurd rfl (hmove after)
    · exact .inl ((hagree.entry?_eq place hhere).trans hthere)

/-- No directory is removed. -/
theorem ne_directory_of_loss? {loss : Loss} (hloss : move.loss? path tree = some loss) :
    loss.entry ≠ .directory := by
  obtain ⟨-, hmove, ⟨slash, hlocate⟩, hgone⟩ := of_loss? hloss
  have hthere := (FileTree.of_locate hlocate).1
  obtain ⟨after, hothers⟩ | hsame | ⟨changed, hchanged, hfree, -⟩ := after_agrees path tree move
  · exact absurd hothers (hmove after)
  · exact absurd (hsame.symm ▸ hthere) hgone
  · rintro hdirectory
    have hplace := hchanged.symm.trans hlocate
    simp only [Except.ok.injEq, FileTree.Location.mk.injEq] at hplace
    exact hfree (hplace.2.1.trans (congrArg some hdirectory))

/-- A bind removes sockets only. -/
theorem isSocket_of_loss?_bind {loss : Loss} {listener mode : Nat} {system : SocketSystem}
    (hloss : (PathMove.bind listener mode system).loss? path tree = some loss) :
    loss.entry.isSocket = true := by
  obtain ⟨-, -, ⟨slash, hlocate⟩, hgone⟩ := of_loss? hloss
  have hthere := (FileTree.of_locate hlocate).1
  have houtcome := SocketFile.bindOutcome system tree path mode listener
  simp only [after] at hgone
  generalize (SocketFile.bindUnder system tree path mode listener).2 = left at houtcome hgone
  cases houtcome with
  | kept => exact absurd hthere hgone
  | cleared hleads hsome hsocket =>
    obtain rfl := Option.some.inj (hsome.symm.trans (hleads.eq_of_locate hlocate).2)
    exact hsocket
  | made hleads hothers => exact hothers _ (hleads.eq_of_locate hlocate).2

/-! ### Runs -/

theorem run_append_cons (path : String) (tree : FileTree) (early late : List PathMove)
    (move : PathMove) :
    run path tree (early ++ move :: late) =
      run path (move.after path (run path tree early)) late := by
  simp only [run, List.foldl_append, List.foldl_cons]

/-- Every loss is that of one of the moves. -/
theorem exists_of_mem_losses {moves : List PathMove} {loss : Loss}
    (hloss : loss ∈ losses path tree moves) :
    ∃ early move late, moves = early ++ move :: late ∧
      move.loss? path (run path tree early) = some loss := by
  induction moves generalizing tree with
  | nil => simp [losses] at hloss
  | cons move rest ih =>
    rcases List.mem_append.mp hloss with hfirst | hlater
    · exact ⟨[], move, rest, rfl, Option.mem_toList.mp hfirst⟩
    · obtain ⟨early, lost, late, rfl, hlost⟩ := ih hlater
      exact ⟨move :: early, lost, late, rfl, hlost⟩

/-- What is there before a run and what nobody else touches is there after it, or a listener removed
it. -/
theorem kept_or_lost_run {moves : List PathMove}
    (hothers : ∀ after, .others after ∈ moves → after.entry? place = some entry)
    (hthere : tree.entry? place = some entry) :
    FileTree.entry? (run path tree moves) place = some entry ∨
      ∃ loss ∈ losses path tree moves, loss.place = place ∧ loss.entry = entry := by
  induction moves generalizing tree with
  | nil => exact .inl hthere
  | cons move rest ih =>
    have hstep : FileTree.entry? (move.after path tree) place = some entry ∨
        move.loss? path tree = some ⟨move, place, entry⟩ := by
      cases move with
      | others after => exact .inl (hothers after List.mem_cons_self)
      | bind | drop => exact kept_or_lost (by simp) hthere
    rcases hstep with hkept | hlost
    · obtain hstays | ⟨loss, hloss, hsame⟩ :=
        ih (fun after hlater ↦ hothers after (List.mem_cons_of_mem _ hlater)) hkept
      · exact .inl hstays
      · exact .inr ⟨loss, List.mem_append_right _ hloss, hsame⟩
    · exact .inr ⟨⟨move, place, entry⟩, List.mem_append_left _ (by simp [hlost]), rfl, rfl⟩

/-- The path leads to one's own socket, or nothing is there. -/
structure OwnOrVacant (path : String) (place : Place) (own : Entry) (tree : FileTree) : Prop where
  leads : tree.LeadsTo false path place
  own_or_vacant : tree.entry? place = some own ∨ tree.entry? place = none

/-- Only drops change what the path names. -/
def Undisturbed (path : String) : FileTree → List PathMove → Prop
  | _, [] => True
  | tree, .drop listener system :: rest =>
    Undisturbed path (after path tree (.drop listener system)) rest
  | tree, .bind listener mode system :: rest =>
    let left := after path tree (.bind listener mode system)
    left.locate false path = tree.locate false path ∧ Undisturbed path left rest
  | tree, .others after :: rest =>
    after.locate false path = tree.locate false path ∧ Undisturbed path after rest

/-- A drop leaves the path as it is or nothing there. -/
theorem OwnOrVacant.drop {own : Entry} (hown : OwnOrVacant path place own tree)
    (system : SocketSystem) :
    OwnOrVacant path place own (SocketFile.unbindUnder system tree path) := by
  rw [SocketFile.unbindUnder_eq hown.leads]
  split
  · exact ⟨hown.leads.erase, .inr hown.leads.entry?_erase_self⟩
  · exact hown

/-- Where the path leads to what it did, it still leads to one's own. -/
theorem OwnOrVacant.of_locate_eq {own : Entry} {after : FileTree}
    (hown : OwnOrVacant path place own tree)
    (hsame : after.locate false path = tree.locate false path) :
    OwnOrVacant path place own after ∧ after.entry? place = tree.entry? place := by
  rw [hown.leads.locate_eq] at hsame
  obtain ⟨hentry, -, -, hleads⟩ := FileTree.of_locate hsame
  refine ⟨⟨hleads rfl fun entry hthere ↦ hown.leads.ends entry (hentry ▸ hthere), ?_⟩, hentry⟩
  exact hentry.symm ▸ hown.own_or_vacant

/-- As long as it is undisturbed, the path leads to one's own socket or to nothing, and to nothing
only after a drop that the system allowed to remove something. -/
theorem ownOrVacant_run {own : Entry} {moves : List PathMove}
    (hown : OwnOrVacant path place own tree) (hundisturbed : Undisturbed path tree moves) :
    OwnOrVacant path place own (run path tree moves) ∧
      ((∀ listener system, .drop listener system ∈ moves → system.refusal .remove ≠ none) →
        FileTree.entry? (run path tree moves) place = tree.entry? place) := by
  induction moves generalizing tree with
  | nil => exact ⟨hown, fun _ ↦ rfl⟩
  | cons move rest ih =>
    have hsame {after : FileTree} (hlocate : after.locate false path = tree.locate false path)
        (hlater : Undisturbed path after rest) :
        OwnOrVacant path place own (run path after rest) ∧
          ((∀ listener system, .drop listener system ∈ move :: rest →
              system.refusal .remove ≠ none) →
            FileTree.entry? (run path after rest) place = tree.entry? place) := by
      obtain ⟨hthen, hentry⟩ := hown.of_locate_eq hlocate
      obtain ⟨hlast, hkept⟩ := ih hthen hlater
      exact ⟨hlast, fun hrefused ↦ (hkept fun listener system hlisted ↦
        hrefused listener system (List.mem_cons_of_mem _ hlisted)).trans hentry⟩
    cases move with
    | bind listener mode system => exact hsame hundisturbed.1 hundisturbed.2
    | others after => exact hsame hundisturbed.1 hundisturbed.2
    | drop listener system =>
      obtain ⟨hlast, hkept⟩ := ih (hown.drop system) hundisturbed
      refine ⟨hlast, fun hrefused ↦ ?_⟩
      obtain ⟨fault, hfault⟩ :=
        Option.ne_none_iff_exists'.mp (hrefused listener system List.mem_cons_self)
      refine (hkept fun other answers hlisted ↦
        hrefused other answers (List.mem_cons_of_mem _ hlisted)).trans ?_
      rw [SocketFile.unbindUnder_of_refused tree path hfault]

/-- A drop removes one's own socket if that is where the path leads and the system allows it. It
removes nothing if nothing is there. -/
theorem OwnOrVacant.loss?_drop {own : Entry} (hown : OwnOrVacant path place own tree)
    (listener : Nat) (system : SocketSystem) :
    let loss := (PathMove.drop listener system).loss? path tree
    (loss = none ∨ loss = some ⟨.drop listener system, place, own⟩) ∧
      (tree.entry? place = some own → system.refusal .remove = none →
        loss = some ⟨.drop listener system, place, own⟩) := by
  intro loss
  have hlocate := hown.leads.locate_eq
  rcases hown.own_or_vacant with hthere | hvacant
  · rw [hthere] at hlocate
    have hloss : loss = if FileTree.entry? (after path tree (.drop listener system)) place =
        some own then none else some ⟨.drop listener system, place, own⟩ := by
      simp only [loss, loss?, hlocate]
    refine ⟨by rw [hloss]; split <;> simp, fun _ hallowed ↦ ?_⟩
    have hgone : FileTree.entry? (after path tree (.drop listener system)) place = none := by
      simp [after, SocketFile.unbindUnder_eq hown.leads, hthere, hallowed,
        hown.leads.entry?_erase_self]
    rw [hloss, hgone, if_neg (by simp)]
  · rw [hvacant] at hlocate
    exact ⟨.inl (by simp only [loss, loss?, hlocate]), fun hthere ↦ by simp [hvacant] at hthere⟩

/-- What the listeners on a path remove in the course of any moves, with anything that others make
of the tree in between, and whatever the system refuses them.

* What was there is still there, wherever it was, unless others touched it or the listeners
  removed it; they remove no directory, and with a bind they remove a socket, whoever made it.
* A bind that finds anything but a socket fails for that and leaves the whole tree as it is. If it
  finds a socket and may not remove that, it fails for that, and the whole tree stays, too. If it
  may, nothing is left of the socket, and what is there then is what the bind made.
* A listener that is dropped and may not remove anything leaves the whole tree as it is.
* A listener that was bound removes nothing but its own socket when it is dropped, if since then
  nobody but other listeners that were dropped changed what the path names; and if it may, it does
  remove that, unless another one that was dropped was allowed to remove something before. -/
theorem listeners_remove_sockets (path : String) (start : FileTree) (moves : List PathMove) :
    (∀ place entry, start.entry? place = some entry →
      (∀ after, .others after ∈ moves → after.entry? place = some entry) →
      FileTree.entry? (run path start moves) place = some entry ∨
        ∃ loss ∈ losses path start moves, loss.place = place ∧ loss.entry = entry) ∧
    (∀ loss ∈ losses path start moves, loss.entry ≠ .directory ∧
      ∀ listener mode system, loss.move = .bind listener mode system →
        loss.entry.isSocket = true) ∧
    (∀ early listener mode system late, moves = early ++ .bind listener mode system :: late →
      let before := run path start early
      let result := (SocketFile.bindUnder system before path mode listener).1
      let left := run path start (early ++ [.bind listener mode system])
      ∀ place entry slash,
        SocketFile.found system before path = .ok ⟨place, some entry, slash⟩ →
        (entry.isSocket = false →
          result =
              .error ⟨.unlink, path, .described .alreadyExists "path exists and is not a socket"⟩ ∧
            left = before) ∧
        (entry.isSocket = true →
          (∀ fault, system.refusal .remove = some fault →
            result = .error ⟨.unlink, path, fault⟩ ∧ left = before) ∧
          (system.refusal .remove = none →
            left.entry? place = SocketFile.leftBy listener mode result))) ∧
    (∀ early listener system late, moves = early ++ .drop listener system :: late →
      system.refusal .remove ≠ none →
      run path start (early ++ [.drop listener system]) = run path start early) ∧
    ∀ early listener mode system since removing late bound,
      moves = early ++ .bind listener mode system :: (since ++ .drop listener removing :: late) →
      SocketFile.bindUnder system (run path start early) path mode listener = (.ok (), bound) →
      Undisturbed path bound since →
      ∃ place, bound.entry? place = some (SocketFile.own listener mode) ∧
        let last := run path start (early ++ .bind listener mode system :: since)
        let loss := (PathMove.drop listener removing).loss? path last
        let own : Loss := ⟨.drop listener removing, place, SocketFile.own listener mode⟩
        (loss = none ∨ loss = some own) ∧
          ((∀ other answers, .drop other answers ∈ since → answers.refusal .remove ≠ none) →
            removing.refusal .remove = none → loss = some own) := by
  refine ⟨fun place entry hthere hothers ↦ kept_or_lost_run hothers hthere, ?lost, ?found, ?refused,
    ?own⟩
  case lost =>
    intro loss hloss
    obtain ⟨early, move, late, -, hlost⟩ := exists_of_mem_losses hloss
    refine ⟨ne_directory_of_loss? hlost, fun listener mode system hbind ↦ ?_⟩
    obtain rfl := (of_loss? hlost).1.symm.trans hbind
    exact isSocket_of_loss?_bind hlost
  case found =>
    rintro early listener mode system late - before result left place entry slash hfound
    have hleft : left = (SocketFile.bindUnder system before path mode listener).2 :=
      run_append_cons path start early [] _
    have hrefused {fault : Fault} (hstale : SocketFile.removeStale system before path =
        .error fault) : result = .error ⟨.unlink, path, fault⟩ ∧ left = before := by
      rw [hleft]
      simp only [result, SocketFile.bindUnder_of_refused mode listener hstale, and_self]
    refine ⟨fun hother ↦ hrefused (SocketFile.removeStale_of_other hfound hother),
      fun hsocket ↦ ⟨fun fault hfault ↦ hrefused ?_, fun hallowed ↦ ?_⟩⟩
    · rw [SocketFile.removeStale_of_socket hfound hsocket, SocketSystem.answer, hfault]
    · rw [hleft]
      exact SocketFile.entry?_bindUnder_of_socket mode listener hfound hsocket hallowed
  case refused =>
    rintro early listener system late - hrefused
    obtain ⟨fault, hfault⟩ := Option.ne_none_iff_exists'.mp hrefused
    rw [run_append_cons]
    exact SocketFile.unbindUnder_of_refused (run path start early) path hfault
  case own =>
    rintro early listener mode system since removing late bound - hbind hundisturbed
    obtain ⟨place, hleads, hthere⟩ := SocketFile.own_of_bindUnder hbind
    have hafter : after path (run path start early) (.bind listener mode system) = bound :=
      congrArg Prod.snd hbind
    have hlast : run path start (early ++ .bind listener mode system :: since) =
        run path bound since := by
      rw [run_append_cons, hafter]
    obtain ⟨hleft, hkept⟩ := ownOrVacant_run ⟨hleads, .inl hthere⟩ hundisturbed
    obtain ⟨hown, hremoved⟩ := hleft.loss?_drop listener removing
    rw [hlast]
    exact ⟨place, hthere, hown,
      fun hrefused hallowed ↦ hremoved ((hkept hrefused).trans hthere) hallowed⟩

/-- A listener is bound where a dead socket was, somebody else makes a file beside it, another
listener is dropped that may not remove anything, and the drop removes the listener's own socket. -/
theorem own_socket_removed_at_drop :
    let dead : Entry := .socket none 0o755
    let sticky : SocketSystem :=
      ⟨fun call ↦ if call = .remove then
        some (.described .permissionDenied "Operation not permitted") else none⟩
    let start : FileTree := (⟨[], []⟩ : FileTree).put ["f"] dead
    let bound : FileTree := start.put ["f"] (SocketFile.own 0 0o666)
    let beside : FileTree := bound.put ["g"] (.file #[] 0o644)
    let last := run "f" start [.bind 0 0o666 .willing, .others beside, .drop 1 sticky]
    SocketFile.bindUnder .willing start "f" 0o666 0 = (.ok (), bound) ∧
      (PathMove.drop 0 .willing).loss? "f" last =
        some ⟨.drop 0 .willing, ["f"], SocketFile.own 0 0o666⟩ := by
  intro dead sticky start bound beside last
  have hshort : ¬SocketFile.addressSize ≤ "f".utf8ByteSize := by decide
  have hbind : SocketFile.bindUnder .willing start "f" 0o666 0 = (.ok (), bound) := by
    simp [SocketFile.bindUnder, SocketFile.removeStale, SocketFile.found, SocketFile.vacancy,
      SocketFile.own, SocketSystem.answer, SocketSystem.firstRefused, SocketSystem.willing,
      FileTree.inspect_one_name, FileTree.locate_one_name, FileTree.put, FileTree.erase,
      FileTree.entry?, hshort, start, dead, bound]
  have hundisturbed : Undisturbed "f" bound [.others beside, .drop 1 sticky] := by
    have hsame : beside.locate false "f" = bound.locate false "f" :=
      (FileTree.locate_one_name beside.entries).trans
        (FileTree.locate_one_name bound.entries).symm
    exact ⟨hsame, trivial⟩
  obtain ⟨place, hthere, -, hlost⟩ :=
    (listeners_remove_sockets "f" start
      [.bind 0 0o666 .willing, .others beside, .drop 1 sticky, .drop 0 .willing]).2.2.2.2
      [] 0 0o666 .willing [.others beside, .drop 1 sticky] .willing [] bound rfl hbind hundisturbed
  have hplace : place = ["f"] := by
    by_contra hother
    rw [FileTree.entry?_put (by simp), if_neg hother, FileTree.entry?_put (by simp),
      if_neg hother] at hthere
    simp [FileTree.entry?, SocketFile.own] at hthere
  subst hplace
  exact ⟨hbind, hlost (by simp [sticky]) rfl⟩

/-- A bind removes the socket that somebody else left. A drop removes the socket of a second
listener that was bound meanwhile, and it removes a file that was put in its socket's place. -/
theorem removes_what_is_not_its_own :
    let dead : Entry := .socket none 0o755
    let note : Entry := .file #[] 0o644
    let empty : FileTree := ⟨[], []⟩
    let willing := SocketSystem.willing
    losses "f" (empty.put ["f"] dead) [.bind 0 0o666 willing] =
        [⟨.bind 0 0o666 willing, ["f"], dead⟩] ∧
      losses "f" empty [.bind 0 0o666 willing, .bind 1 0o666 willing, .drop 0 willing] =
        [⟨.bind 1 0o666 willing, ["f"], SocketFile.own 0 0o666⟩,
          ⟨.drop 0 willing, ["f"], SocketFile.own 1 0o666⟩] ∧
      losses "f" empty [.bind 0 0o666 willing, .others (empty.put ["f"] note), .drop 0 willing] =
        [⟨.drop 0 willing, ["f"], note⟩] := by
  intro dead note empty willing
  have hshort : ¬SocketFile.addressSize ≤ "f".utf8ByteSize := by decide
  refine ⟨?_, ?_, ?_⟩ <;>
    simp [losses, loss?, after, SocketFile.bindUnder, SocketFile.removeStale, SocketFile.found,
      SocketFile.vacancy, SocketFile.unbindUnder, SocketFile.own, SocketSystem.answer,
      SocketSystem.firstRefused, SocketSystem.willing, FileTree.inspect_one_name,
      FileTree.locate_one_name, FileTree.put, FileTree.erase, FileTree.entry?, empty, dead, note,
      willing, hshort]

end PathMove

end HeadlessDisplay
