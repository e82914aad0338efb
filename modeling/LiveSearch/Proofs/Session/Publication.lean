import LiveSearch.Proofs.Board.Observation
import LiveSearch.Proofs.Session.Rehearsal

/-! # The writes of one session

A session whose list does not exist when it starts, and to whose list nobody else writes, publishes
the list at most once, then adds keys that are absent and removes keys that are present, and deletes
the list at most once, as its last write (`LiveSearch.IsPublication`). The courses that a session
can take are those of any surroundings (`LiveSearch.Session.Course`): it may be told anything at any
time, be cancelled, fail to write, and lose its list to somebody else's deletion. In all of them the
list holds what the writes of the session amount to, which is also what the session takes it to hold
(`LiveSearch.Session.Course.writes_publish`).
-/

namespace LiveSearch

namespace ListWrite

/-- The entries that writes to one list leave in it; `none` if the list does not exist then. -/
def content (writes : List ListWrite) : Option (List String) := writes.foldl apply none

@[simp] theorem content_append (writes : List ListWrite) (write : ListWrite) :
    content (writes ++ [write]) = write.apply (content writes) := by
  rw [content, List.foldl_append]
  rfl

/-- A write that adds an absent entry to a list or removes a present one. -/
def IsEdit (name : String) (entries : List String) : ListWrite → Prop
  | add list entry => list = name ∧ entry ∉ entries
  | remove list entry => list = name ∧ entry ∈ entries
  | _ => False

end ListWrite

/-- No write at all, or one replacement by entries without duplicates, then edits of what the
earlier writes have left, then at most one deletion. -/
def IsPublication (name : String) (writes : List ListWrite) : Prop :=
  writes = [] ∨ ∃ entries edits last, writes = .set name entries :: (edits ++ last) ∧
    entries.Nodup ∧ (last = [] ∨ last = [.delete name]) ∧
    ∀ earlier edit later, edits = earlier ++ edit :: later →
      ∃ present, ListWrite.content (.set name entries :: earlier) = some present ∧
        edit.IsEdit name present

namespace IsPublication

variable {name : String} {writes : List ListWrite} {present : List String}

theorem nothing (name : String) : IsPublication name [] := .inl rfl

theorem replacement (name : String) {entries : List String} (nodup : entries.Nodup) :
    IsPublication name [.set name entries] :=
  .inr ⟨entries, [], [], rfl, nodup, .inl rfl, fun _ _ _ split =>
    absurd split.symm (List.append_ne_nil_of_right_ne_nil _ (List.cons_ne_nil _ _))⟩

/-- A publication that leaves a list has not ended in its deletion. -/
private theorem open_of_content (publication : IsPublication name writes)
    (content : ListWrite.content writes = some present) :
    ∃ entries edits, writes = .set name entries :: edits ∧ entries.Nodup ∧
      ∀ earlier edit later, edits = earlier ++ edit :: later →
        ∃ held, ListWrite.content (.set name entries :: earlier) = some held ∧
          edit.IsEdit name held := by
  rcases publication with empty | ⟨entries, edits, last, same, nodup, final, all⟩
  · rw [empty] at content
    exact absurd content (by simp [ListWrite.content])
  · rcases final with none | deletion
    · rw [none, List.append_nil] at same
      exact ⟨entries, edits, same, nodup, all⟩
    · rw [deletion, ← List.cons_append] at same
      rw [same, ListWrite.content_append] at content
      exact absurd content (by simp [ListWrite.apply])

theorem edit (publication : IsPublication name writes)
    (content : ListWrite.content writes = some present) {write : ListWrite}
    (edits : write.IsEdit name present) : IsPublication name (writes ++ [write]) := by
  obtain ⟨entries, earlier, same, nodup, all⟩ := publication.open_of_content content
  refine .inr ⟨entries, earlier ++ [write], [], by rw [same]; simp, nodup, .inl rfl, ?_⟩
  intro front other later split
  rcases List.append_eq_append_iff.mp split with
    ⟨between, front_eq, rest⟩ | ⟨between, earlier_eq, rest⟩
  · cases between with
    | nil =>
        rw [List.append_nil] at front_eq
        obtain ⟨rfl, _⟩ := List.cons.inj rest
        refine ⟨present, ?_, edits⟩
        rw [front_eq, ← same, content]
    | cons head tail =>
        have lengths := congrArg List.length rest
        simp at lengths
  · cases between with
    | nil =>
        rw [List.append_nil] at earlier_eq
        obtain ⟨rfl, _⟩ := List.cons.inj rest
        refine ⟨present, ?_, edits⟩
        rw [← earlier_eq, ← same, content]
    | cons head tail =>
        obtain ⟨rfl, _⟩ := List.cons.inj rest
        exact all front other tail earlier_eq

theorem deletion (publication : IsPublication name writes)
    (content : ListWrite.content writes = some present) :
    IsPublication name (writes ++ [.delete name]) := by
  obtain ⟨entries, edits, same, nodup, all⟩ := publication.open_of_content content
  exact .inr ⟨entries, edits, [.delete name], by rw [same]; rfl, nodup, .inr rfl, all⟩

end IsPublication

namespace Session

/-- A session on its way: its board, the writes that it has made, and whether its list has been
deleted by somebody else. -/
structure Moment where
  session : Session
  board : Board
  writes : List ListWrite
  lost : Bool

/-- The moment behind something that the session has done; an observer knows what it has written. -/
def Moment.act (moment : Moment) (observer : Nat) (result : Session × Board) : Moment where
  session := result.1
  board := result.2
  writes := moment.writes ++ moment.board.newWrites result.2 observer
  lost := moment.lost

/-- What can become of a session for a name whose list does not exist at first, while nobody else
writes the list. -/
inductive Course (name primaryKey : String) (observer : Nat) : Moment → Prop
  | start (board : Board) (absent : board.lists[name]? = none)
      (watched : board.IsWatched observer) :
      Course name primaryKey observer ⟨Session.start name primaryKey, board, [], false⟩
  /-- The session is told anything at all. -/
  | told {moment : Moment} (signal : Signal) (before : Course name primaryKey observer moment) :
      Course name primaryKey observer
        (moment.act observer (moment.session.receive moment.board signal))
  | cancelled {moment : Moment} (before : Course name primaryKey observer moment) :
      Course name primaryKey observer { moment with session := moment.session.cancel }
  /-- The closing of the session goes on when its worker has ended. -/
  | closed {moment : Moment} (before : Course name primaryKey observer moment)
      (stopped : moment.session.phase.isStopped = true) :
      Course name primaryKey observer
        (moment.act observer (moment.session.finishClosing moment.board))
  /-- The board changes elsewhere: writes begin or cease to fail, and other lists change. -/
  | elsewhere {moment : Moment} (board : Board) (before : Course name primaryKey observer moment)
      (kept : board.lists[name]? = moment.board.lists[name]?)
      (watched : board.IsWatched observer) :
      Course name primaryKey observer { moment with board }
  /-- Somebody else deletes the list, if it exists. -/
  | deleted {moment : Moment} (before : Course name primaryKey observer moment) :
      Course name primaryKey observer
        { moment with
          board := (moment.board.deleteList name).1
          lost := moment.lost || (moment.board.deleteList name).2 }

/-- The writes so far are a publication that has left what the list holds, and the session holds the
same. -/
structure Moment.IsOrderly (name : String) (observer : Nat) (moment : Moment) : Prop where
  named : moment.session.name = name
  watched : moment.board.IsWatched observer
  exact : moment.session.phase.IsExact
  publication : IsPublication name moment.writes
  kept : moment.lost = false → moment.board.entries? name = ListWrite.content moment.writes
  gone : moment.lost = true → moment.board.entries? name = none
  early : moment.session.phase.isEarly = true → moment.writes = [] ∧ moment.lost = false
  following : ∀ handle entries, moment.session.phase = .following handle entries →
    handle.name = name ∧ handle.pending = false ∧
      ListWrite.content moment.writes = some entries
  left : ∀ handle, moment.session.phase = .stopped (some handle) → handle.name = name ∧
    (handle.pending = true ∧ moment.writes = [] ∨
      handle.pending = false ∧ ∃ entries, ListWrite.content moment.writes = some entries)
  closed : moment.session.closed = true → moment.session.phase = .stopped none
  deleted : .delete name ∈ moment.writes → moment.session.closed = true

namespace Moment

variable {name : String} {observer : Nat} {moment : Moment}

theorem act_unwritten (session : Session) :
    moment.act observer (session, moment.board) = { moment with session } := by
  rw [act, Board.newWrites_self, List.append_nil]

namespace IsOrderly

/-- While the session follows a list that nobody else has deleted, the list holds its entries. -/
theorem listed (orderly : moment.IsOrderly name observer) {handle : Handle}
    {entries : List String} (following : moment.session.phase = .following handle entries)
    {list : PublishedList} (found : moment.board.lists[handle.name]? = some list) :
    moment.lost = false ∧ list.entries = entries := by
  obtain ⟨named, _, content⟩ := orderly.following handle entries following
  rw [named] at found
  have held : moment.board.entries? name = some list.entries := by
    rw [Board.entries?, found, Option.map_some]
  cases lost : moment.lost with
  | true => cases (orderly.gone lost).symm.trans held
  | false =>
      have same := (orderly.kept lost).symm.trans held
      rw [content] at same
      exact ⟨rfl, (Option.some.inj same).symm⟩

/-- A session whose worker has not ended is not closed. -/
theorem notClosed (orderly : moment.IsOrderly name observer)
    (running : moment.session.phase.isStopped = false) : moment.session.closed = false := by
  refine Bool.eq_false_iff.mpr fun closed => ?_
  rw [orderly.closed closed] at running
  exact absurd running.symm Bool.false_ne_true

/-- A session that is not closed has not deleted its list. -/
theorem delete_notMem (orderly : moment.IsOrderly name observer)
    (running : moment.session.phase.isStopped = false) :
    ListWrite.delete name ∉ moment.writes :=
  fun member => absurd ((orderly.notClosed running).symm.trans (orderly.deleted member))
    Bool.false_ne_true

/-- The session makes no write and does not follow the list afterwards. -/
private theorem silent (orderly : moment.IsOrderly name observer) {session : Session}
    {board : Board} (named : session.name = moment.session.name) (exact : session.phase.IsExact)
    (unfollowed : ∀ handle entries, session.phase ≠ .following handle entries)
    (early : session.phase.isEarly = true → moment.session.phase.isEarly = true)
    (left : ∀ handle, session.phase = .stopped (some handle) → handle.name = name ∧
      (handle.pending = true ∧ moment.writes = [] ∨
        handle.pending = false ∧ ∃ entries, ListWrite.content moment.writes = some entries))
    (kept : session.closed = moment.session.closed)
    (running : moment.session.phase.isStopped = false) (lists : board.lists = moment.board.lists)
    (watched : board.IsWatched observer) (unwritten : moment.board.newWrites board observer = []) :
    IsOrderly name observer (moment.act observer (session, board)) := by
  have writes : (moment.act observer (session, board)).writes = moment.writes := by
    rw [act, unwritten, List.append_nil]
  have entries : board.entries? name = moment.board.entries? name := by
    rw [Board.entries?, lists, Board.entries?]
  exact {
    named := named.trans orderly.named
    watched := watched
    exact := exact
    publication := writes.symm ▸ orderly.publication
    kept := fun kept => by
      rw [writes]
      exact entries.trans (orderly.kept kept)
    gone := fun lost => entries.trans (orderly.gone lost)
    early := fun now => writes.symm ▸ orderly.early (early now)
    following := fun handle others now => absurd now (unfollowed handle others)
    left := writes.symm ▸ left
    closed := fun closed =>
      absurd ((orderly.notClosed running).symm.trans (kept.symm.trans closed)) Bool.false_ne_true
    deleted := fun member => absurd (writes ▸ member) (orderly.delete_notMem running) }

/-- A list that the session follows has been created. -/
private theorem settled (orderly : moment.IsOrderly name observer) (handle : Handle)
    (entries : List String) (following : moment.session.phase = .following handle entries) :
    handle.pending = false := (orderly.following handle entries following).2.1

/-- The session follows its list, which holds what the writes amount to. -/
private theorem of_following {handle : Handle} {entries : List String}
    (following : moment.session.phase = .following handle entries)
    (named : moment.session.name = name) (watched : moment.board.IsWatched observer)
    (publication : IsPublication name moment.writes) (kept : moment.lost = false)
    (handleNamed : handle.name = name) (settled : handle.pending = false)
    (content : ListWrite.content moment.writes = some entries)
    (listed : moment.board.entries? name = some entries)
    (unclosed : moment.session.closed = false) (deleted : .delete name ∉ moment.writes) :
    moment.IsOrderly name observer where
  named := named
  watched := watched
  exact := by
    rw [following]
    trivial
  publication := publication
  kept _ := listed.trans content.symm
  gone lost := absurd (kept.symm.trans lost) Bool.false_ne_true
  early early := by
    rw [following] at early
    exact absurd early Bool.false_ne_true
  following other others now := by
    rw [following] at now
    obtain ⟨rfl, rfl⟩ := Phase.following.inj now
    exact ⟨handleNamed, settled, content⟩
  left other now := by
    rw [following] at now
    exact nomatch now
  closed closed := absurd (unclosed.symm.trans closed) Bool.false_ne_true
  deleted member := absurd member deleted

/-- The session makes one write, which changes its list as it changes the entries. -/
private theorem write (orderly : moment.IsOrderly name observer) {handle : Handle}
    {entries : List String} (following : moment.session.phase = .following handle entries)
    (edit : List String → List String) {write : ListWrite} (edits : write.IsEdit name entries)
    (applied : write.apply (some entries) = some (edit entries)) {list : PublishedList}
    (found : moment.board.lists[handle.name]? = some list) :
    IsOrderly name observer (moment.act observer
      (moment.session.goOn (.following handle (edit entries)),
        handle.rewritten moment.board edit write list)) := by
  obtain ⟨named, settled, content⟩ := orderly.following handle entries following
  obtain ⟨kept, same⟩ := orderly.listed following found
  have running : moment.session.phase.isStopped = false := by
    rw [following]
    rfl
  have written : (moment.act observer (moment.session.goOn (.following handle (edit entries)),
      handle.rewritten moment.board edit write list)).writes = moment.writes ++ [write] := by
    rw [act, Handle.newWrites_rewritten _ _ _ orderly.watched]
  refine of_following rfl orderly.named (handle.isWatched_rewritten edit write orderly.watched list)
    ?_ kept named settled ?_ ?_ (orderly.notClosed running) ?_
  · rw [written]
    exact orderly.publication.edit content edits
  · rw [written, ListWrite.content_append, content, applied]
  · change Board.entries? (handle.rewritten moment.board edit write list) name = _
    rw [Board.entries?, Handle.lists_rewritten, if_pos named, Option.map_some, same]
  · rw [written, List.mem_append, List.mem_singleton]
    rintro (earlier | rfl)
    · exact orderly.delete_notMem running earlier
    · exact edits.elim

/-- The session creates its list. -/
private theorem create (orderly : moment.IsOrderly name observer) {keys : KeySet}
    (merging : moment.session.phase = .merging keys) :
    IsOrderly name observer (moment.act observer
      (moment.session.ready ⟨moment.session.name, moment.board.nextIncarnation, false⟩ keys.toList,
        Handle.created ⟨moment.session.name, moment.board.nextIncarnation, true⟩
          moment.board.reserve (fun _ => keys.toList) (.set moment.session.name keys.toList))) := by
  have early : moment.session.phase.isEarly = true := by
    rw [merging]
    rfl
  have nodup : keys.toList.Nodup := by
    have exact := orderly.exact
    rw [merging] at exact
    exact KeySet.IsExact.nodup_toList exact
  obtain ⟨none, kept⟩ := orderly.early early
  have named := orderly.named
  generalize creator : Handle.mk moment.session.name moment.board.nextIncarnation true = handle
  have handleNamed : handle.name = name := by
    rw [← creator, ← named]
  have watched : moment.board.reserve.IsWatched observer :=
    ⟨orderly.watched.once, orderly.watched.isOpen⟩
  have writes : (moment.act observer
      (moment.session.ready ⟨moment.session.name, moment.board.nextIncarnation, false⟩ keys.toList,
        handle.created moment.board.reserve (fun _ => keys.toList)
          (.set moment.session.name keys.toList))).writes = [.set name keys.toList] := by
    have written := handle.newWrites_created (fun _ => keys.toList)
      (.set moment.session.name keys.toList) watched
    rw [act, none, List.nil_append, ← named]
    exact written
  refine of_following rfl named
    (handle.isWatched_created (fun _ => keys.toList) (.set moment.session.name keys.toList) watched)
    ?_ kept named rfl ?_ ?_ (orderly.notClosed (by rw [merging]; rfl)) ?_
  · rw [writes]
    exact .replacement name nodup
  · rw [writes]
    rfl
  · change Board.entries? (handle.created _ _ _) name = _
    rw [Board.entries?, Handle.lists_created, if_pos handleNamed]
    rfl
  · rw [writes, List.mem_singleton]
    rintro ⟨⟩

/-- The worker ends and leaves its list behind. -/
private theorem leave (orderly : moment.IsOrderly name observer) {handle : Handle}
    {entries : List String} (following : moment.session.phase = .following handle entries)
    (state : SessionState) :
    IsOrderly name observer
      (moment.act observer (moment.session.ended (some handle) state, moment.board)) := by
  obtain ⟨named, settled, content⟩ := orderly.following handle entries following
  refine orderly.silent rfl trivial (fun _ _ now => nomatch now) (fun still => nomatch still) ?_ rfl
    (by rw [following]; rfl) rfl orderly.watched (Board.newWrites_self _ _)
  intro other now
  have same : some handle = some other := Phase.stopped.inj now
  rw [← Option.some.inj same]
  exact ⟨named, .inr ⟨settled, entries, content⟩⟩

/-- Whatever becomes of a session on a signal, the moment stays orderly. -/
theorem outcome (orderly : moment.IsOrderly name observer) {after : Session} {board : Board}
    {signal : Signal} (outcome : moment.session.Outcome moment.board signal after board) :
    IsOrderly name observer (moment.act observer (after, board)) := by
  have running (early : moment.session.phase.isEarly = true) :
      moment.session.phase.isStopped = false := by
    cases phase : moment.session.phase with
    | stopped owned =>
        rw [phase] at early
        exact absurd early Bool.false_ne_true
    | _ => rfl
  cases outcome.effect orderly.settled with
  | unchanged =>
      rw [act_unwritten]
      exact orderly
  | gathered phase early still exact =>
      refine orderly.silent rfl (exact orderly.exact) ?_ (fun _ => early) ?_ rfl
        (running early) rfl orderly.watched (Board.newWrites_self _ _)
      · rintro handle entries rfl
        exact absurd still Bool.false_ne_true
      · rintro handle rfl
        exact absurd still Bool.false_ne_true
  | abandoned state early =>
      exact orderly.silent rfl trivial (by rintro _ _ ⟨⟩) (by rintro ⟨⟩)
        (by rintro _ ⟨⟩) rfl (running early) rfl orderly.watched
        (Board.newWrites_self _ _)
  | published keys merging =>
      have early : moment.session.phase.isEarly = true := by
        rw [merging]
        rfl
      obtain ⟨none, kept⟩ := orderly.early early
      have absent : moment.board.lists[moment.session.name]? = .none := by
        have entries := orderly.kept kept
        rw [none, Board.entries?, ← orderly.named] at entries
        exact Option.map_eq_none_iff.mp entries
      rcases moment.session.publish_cases moment.board keys with
        ⟨cause, _, refused⟩ | ⟨list, found, _⟩ | ⟨_, created⟩
      · rw [refused]
        refine orderly.silent rfl trivial (by rintro _ _ ⟨⟩)
          (by rintro ⟨⟩) ?_
          rfl (running early) (Board.lists_handleFor _ _) (orderly.watched.handleFor _)
          (Board.newWrites_handleFor _ _ _)
        intro handle now
        have same : some (moment.board.handleFor moment.session.name).1 = some handle :=
          Phase.stopped.inj now
        rw [← Option.some.inj same, Board.name_handleFor]
        refine ⟨orderly.named, .inl ⟨?_, none⟩⟩
        simp only [Board.handleFor, absent]
      · cases absent.symm.trans found
      · rw [created]
        exact orderly.create merging
  | edited handle entries edit write list following edits found =>
      obtain ⟨named, _, _⟩ := orderly.following handle entries following
      cases edits with
      | add key absent =>
          have edits : (ListWrite.add handle.name key).IsEdit name entries := ⟨named, absent⟩
          exact orderly.write following (· ++ [key]) edits rfl found
      | remove key present =>
          have edits : (ListWrite.remove handle.name key).IsEdit name entries := ⟨named, present⟩
          exact orderly.write following (·.erase key) edits rfl found
  | left handle entries state following => exact orderly.leave following state
  | detached handle entries following =>
      exact orderly.silent rfl trivial (by rintro _ _ ⟨⟩) (by rintro ⟨⟩)
        (by rintro _ ⟨⟩) rfl (by rw [following]; rfl) rfl orderly.watched
        (Board.newWrites_self _ _)

/-- The session is closed. -/
private theorem of_closed (named : moment.session.name = name)
    (closed : moment.session.closed = true) (stopped : moment.session.phase = .stopped none)
    (watched : moment.board.IsWatched observer) (publication : IsPublication name moment.writes)
    (kept : moment.lost = false → moment.board.entries? name = ListWrite.content moment.writes)
    (gone : moment.lost = true → moment.board.entries? name = none) :
    moment.IsOrderly name observer where
  named := named
  watched := watched
  exact := by
    rw [stopped]
    trivial
  publication := publication
  kept := kept
  gone := gone
  early early := by
    rw [stopped] at early
    exact absurd early Bool.false_ne_true
  following _ _ now := nomatch stopped.symm.trans now
  left _ now := nomatch stopped.symm.trans now
  closed _ := stopped
  deleted _ := closed

/-- The session is closed, and its list stays as it is. -/
private theorem close_keeping (orderly : moment.IsOrderly name observer) (board : Board)
    (same : (moment.session.finishClosing moment.board).2 = board)
    (lists : board.lists = moment.board.lists) (watched : board.IsWatched observer)
    (unwritten : moment.board.newWrites board observer = []) :
    IsOrderly name observer (moment.act observer (moment.session.finishClosing moment.board)) := by
  have entries : board.entries? name = moment.board.entries? name := by
    rw [Board.entries?, lists, Board.entries?]
  have writes : (moment.act observer (moment.session.finishClosing moment.board)).writes =
      moment.writes := by
    rw [act, same, unwritten, List.append_nil]
  refine of_closed orderly.named rfl rfl ?_ ?_ ?_ ?_
  · rw [act, same]
    exact watched
  · rw [writes]
    exact orderly.publication
  · rw [writes, act, same]
    exact fun kept => entries.trans (orderly.kept kept)
  · rw [act, same]
    exact fun lost => entries.trans (orderly.gone lost)

/-- The session is closed and deletes its list, if it exists. -/
private theorem close_deleting (orderly : moment.IsOrderly name observer) {present : List String}
    (content : ListWrite.content moment.writes = some present)
    (same : (moment.session.finishClosing moment.board).2 = (moment.board.deleteList name).1) :
    IsOrderly name observer (moment.act observer (moment.session.finishClosing moment.board)) := by
  have news := Board.newWrites_deleteList orderly.watched name
  have absent : (moment.board.deleteList name).1.entries? name = none := by
    rw [Board.entries?, Board.lists_deleteList, if_pos rfl, Option.map_none]
  have writes : (moment.act observer (moment.session.finishClosing moment.board)).writes =
      moment.writes ++ if (moment.board.lists[name]?).isSome then [.delete name] else [] := by
    rw [act, same, news]
  refine of_closed orderly.named rfl rfl ?_ ?_ ?_ ?_
  · rw [act, same]
    exact orderly.watched.deleteList name
  · rw [writes]
    split
    · exact orderly.publication.deletion content
    · rw [List.append_nil]
      exact orderly.publication
  · intro kept
    have entries := (orderly.kept kept).trans content
    have held : (moment.board.lists[name]?).isSome = true := by
      rw [Board.entries?] at entries
      obtain ⟨list, found, _⟩ := Option.map_eq_some_iff.mp entries
      rw [found, Option.isSome_some]
    rw [writes, if_pos held, ListWrite.content_append, act, same, absent]
    rfl
  · rw [act, same]
    exact fun _ => absent

/-- The closing of a session whose worker has ended makes no write but the deletion of the list that
the session still has. -/
theorem finishClosing (orderly : moment.IsOrderly name observer)
    (stopped : moment.session.phase.isStopped = true) :
    IsOrderly name observer (moment.act observer (moment.session.finishClosing moment.board)) := by
  cases phase : moment.session.phase with
  | stopped owned =>
      cases owned with
      | none =>
          refine orderly.close_keeping moment.board ?_ rfl orderly.watched
            (Board.newWrites_self _ _)
          simp only [Session.finishClosing, phase]
      | some handle =>
          obtain ⟨named, owned⟩ := orderly.left handle phase
          cases gone : moment.board.isWithdrawn handle with
          | true =>
              refine orderly.close_keeping moment.board ?_ rfl orderly.watched
                (Board.newWrites_self _ _)
              simp only [Session.finishClosing, phase, gone, ↓reduceIte]
          | false =>
              rcases owned with ⟨pending, _⟩ | ⟨settled, entries, content⟩
              · refine orderly.close_keeping { moment.board with
                  withdrawn := moment.board.withdrawn.insert handle.incarnation } ?_ rfl
                  ⟨orderly.watched.once, orderly.watched.isOpen⟩
                  (Board.newWrites_self moment.board observer)
                simp only [Session.finishClosing, phase, gone, Bool.false_eq_true, ↓reduceIte,
                  Handle.delete, pending, Handle.giveUp]
              · refine orderly.close_deleting content ?_
                simp only [Session.finishClosing, phase, gone, Bool.false_eq_true, ↓reduceIte,
                  Handle.delete, settled, named]
  | _ =>
      rw [phase] at stopped
      exact absurd stopped Bool.false_ne_true

/-- A new session is orderly while its list does not exist. -/
theorem start {primaryKey : String} {board : Board} (absent : board.lists[name]? = none)
    (watched : board.IsWatched observer) :
    IsOrderly name observer ⟨Session.start name primaryKey, board, [], false⟩ where
  named := rfl
  watched := watched
  exact := trivial
  publication := .nothing name
  kept _ := by
    rw [Board.entries?, absent]
    rfl
  gone lost := absurd lost Bool.false_ne_true
  early _ := ⟨rfl, rfl⟩
  following _ _ now := nomatch now
  left _ now := nomatch now
  closed closed := absurd closed Bool.false_ne_true
  deleted member := absurd member List.not_mem_nil

/-- Another board with the same list changes nothing. -/
theorem withBoard (orderly : moment.IsOrderly name observer) {board : Board}
    (kept : board.lists[name]? = moment.board.lists[name]?) (watched : board.IsWatched observer) :
    IsOrderly name observer { moment with board } := by
  have entries : board.entries? name = moment.board.entries? name := by
    rw [Board.entries?, kept, Board.entries?]
  exact { orderly with
    watched := watched
    kept := fun kept => entries.trans (orderly.kept kept)
    gone := fun lost => entries.trans (orderly.gone lost) }

/-- Somebody else's deletion takes the list that exists away, and nothing else. -/
theorem deleteList (orderly : moment.IsOrderly name observer) :
    IsOrderly name observer
      { moment with
        board := (moment.board.deleteList name).1
        lost := moment.lost || (moment.board.deleteList name).2 } := by
  cases found : moment.board.lists[name]? with
  | none =>
      have same : moment.board.deleteList name = (moment.board, false) := by
        simp only [Board.deleteList, found]
      rw [same, Bool.or_false]
      exact orderly
  | some list =>
      have held : (moment.board.deleteList name).2 = true := by
        simp only [Board.deleteList, found]
      have absent : (moment.board.deleteList name).1.entries? name = none := by
        rw [Board.entries?, Board.lists_deleteList, if_pos rfl, Option.map_none]
      rw [held, Bool.or_true]
      exact { orderly with
        watched := orderly.watched.deleteList name
        kept := fun kept => absurd kept.symm Bool.false_ne_true
        gone := fun _ => absent
        early := fun early => by
          obtain ⟨none, kept⟩ := orderly.early early
          have entries := orderly.kept kept
          rw [none, Board.entries?, found] at entries
          exact absurd entries (by simp [ListWrite.content]) }

end IsOrderly

end Moment

/-- Every course is orderly at every moment. -/
theorem Course.isOrderly {name primaryKey : String} {observer : Nat} {moment : Moment}
    (course : Course name primaryKey observer moment) : moment.IsOrderly name observer := by
  induction course with
  | start board absent watched => exact .start absent watched
  | told signal before ih => exact ih.outcome (receive_outcome _ _ signal)
  | cancelled before ih => exact { ih with }
  | closed before stopped ih => exact ih.finishClosing stopped
  | elsewhere board before kept watched ih => exact ih.withBoard kept watched
  | deleted before ih => exact ih.deleteList

variable {name primaryKey : String} {observer : Nat} {moment : Moment}

/-- No signal makes a session delete its list. -/
theorem Course.delete_notMem_told (course : Course name primaryKey observer moment)
    (signal : Signal) : .delete name ∉
      moment.board.newWrites (moment.session.receive moment.board signal).2 observer := by
  intro deletion
  have outcome := moment.session.receive_outcome moment.board signal
  have closed : (moment.session.receive moment.board signal).1.closed = true :=
    (course.told signal).isOrderly.deleted (List.mem_append_right _ deletion)
  have stopped := course.isOrderly.closed (outcome.keeps.2.2.2.symm.trans closed)
  rw [(outcome.of_stopped stopped).2, Board.newWrites_self] at deletion
  exact absurd deletion List.not_mem_nil

/-- When a session that follows its list ends, the signal has left the board as it was. -/
theorem Course.board_of_ending (course : Course name primaryKey observer moment) {handle : Handle}
    {entries : List String} (following : moment.session.phase = .following handle entries)
    (signal : Signal)
    (stopped : (moment.session.receive moment.board signal).1.phase.isStopped = true) :
    (moment.session.receive moment.board signal).2 = moment.board := by
  have outcome := moment.session.receive_outcome moment.board signal
  have effect := outcome.effect course.isOrderly.settled
  revert stopped effect
  generalize (moment.session.receive moment.board signal).1 = after,
    (moment.session.receive moment.board signal).2 = board
  intro stopped effect
  cases effect with
  | published keys merging => exact nomatch following.symm.trans merging
  | edited owned others edit write list follows _ _ => exact absurd stopped Bool.false_ne_true
  | _ => rfl

/-- **List-write discipline.** In every course a session publishes its list at most once, edits what
it has published, and deletes it at most once and last, which no signal makes it do but only its
closing. Unless somebody else has deleted the list, it holds what these writes amount to, and what
they amount to is what a session that follows the list takes it to hold. An event that ends such a
session, because a write has failed or otherwise, has changed nothing. -/
theorem Course.writes_publish (course : Course name primaryKey observer moment) :
    IsPublication name moment.writes ∧
    (∀ signal, .delete name ∉
      moment.board.newWrites (moment.session.receive moment.board signal).2 observer) ∧
    (moment.lost = false → moment.board.entries? name = ListWrite.content moment.writes) ∧
    (∀ handle entries, moment.session.phase = .following handle entries →
      ListWrite.content moment.writes = some entries ∧
      ∀ signal, (moment.session.receive moment.board signal).1.phase.isStopped = true →
        (moment.session.receive moment.board signal).2 = moment.board) :=
  have orderly := course.isOrderly
  ⟨orderly.publication, course.delete_notMem_told, orderly.kept, fun handle entries following =>
    ⟨(orderly.following handle entries following).2.2, course.board_of_ending following⟩⟩

section Shelf

/-- A record of which only the key is known. -/
private def keyed (key : String) : Json := .object [("id", .string key)]

/-- The moment when a session has been told some signals. -/
private def Moment.tellAll (moment : Moment) (signals : List Signal) : Moment :=
  signals.foldl (fun moment signal => moment.act 0 (moment.session.receive moment.board signal))
    moment

private theorem Course.toldAll (course : Course name primaryKey 0 moment) (signals : List Signal) :
    Course name primaryKey 0 (moment.tellAll signals) := by
  induction signals generalizing moment with
  | nil => exact course
  | cons signal rest ih => exact ih (course.told signal)

/-- A session of two records lists a third one and takes the first one off. -/
def shelf : Moment :=
  Moment.tellAll ⟨.start "books?" "id", (Board.empty 10).observe.2, [], false⟩
    [.opened, .row (.ok (keyed "a")), .row (.ok (keyed "b")), .rowsEnd, .event (.ok .ready),
      .event (.ok (.change none (some (keyed "c")))),
      .event (.ok (.change (some (keyed "a")) none))]

/-- Lists cannot be written when a fourth record comes. -/
def refusedShelf : Moment :=
  Moment.tellAll { shelf with board := shelf.board.setFailure (some (.publish "offline")) }
    [.event (.ok (.change none (some (keyed "d"))))]

/-- Lists can be written again when the session is closed. -/
def closedShelf : Moment :=
  let moment : Moment := { refusedShelf with
    session := refusedShelf.session.cancel, board := refusedShelf.board.setFailure none }
  moment.act 0 (moment.session.finishClosing moment.board)

/-- Instead of this somebody else deletes the list, and the session hears of it. -/
def lostShelf : Moment :=
  Moment.tellAll { shelf with
    board := (shelf.board.deleteList "books?").1
    lost := shelf.lost || (shelf.board.deleteList "books?").2 } [.listDeleted]

/-- What the session has written is a publication, with a deletion if its list has not been lost.
The refused write has left nothing. -/
theorem Course.writes_publish_shelf :
    let edited := [.set "books?" ["a", "b"], .add "books?" "c", .remove "books?" "a"]
    refusedShelf.session.state = .failed (.changeNotification (.publish "offline")) ∧
      refusedShelf.writes = edited ∧ refusedShelf.board.entries? "books?" = some ["b", "c"] ∧
      closedShelf.writes = edited ++ [.delete "books?"] ∧
      closedShelf.board.entries? "books?" = none ∧ IsPublication "books?" closedShelf.writes ∧
      lostShelf.writes = edited ∧ lostShelf.lost = true ∧
      IsPublication "books?" lostShelf.writes := by
  intro edited
  have absent : (Board.empty 10).observe.2.lists["books?"]? = none := Std.TreeMap.getElem?_emptyc
  have watched : (Board.empty 10).observe.2.IsWatched 0 := ⟨by decide, by decide⟩
  have shelved : Course "books?" "id" 0 shelf := (Course.start _ absent watched).toldAll _
  have refused : Course "books?" "id" 0 refusedShelf :=
    (shelved.elsewhere (shelf.board.setFailure (some (.publish "offline"))) rfl
      ⟨by decide +kernel, by decide +kernel⟩).toldAll _
  have closed : Course "books?" "id" 0 closedShelf :=
    (refused.cancelled.elsewhere (refusedShelf.board.setFailure none) rfl
      ⟨by decide +kernel, by decide +kernel⟩).closed (by decide +kernel)
  have lost : Course "books?" "id" 0 lostShelf := shelved.deleted.toldAll [.listDeleted]
  exact ⟨by decide +kernel, by decide +kernel, by decide +kernel, by decide +kernel,
    by decide +kernel, closed.writes_publish.1, by decide +kernel, by decide +kernel,
    lost.writes_publish.1⟩

end Shelf

end Session

namespace Rehearsal

open Session

variable {name primaryKey : String} {observer : Nat} {rehearsal next : Rehearsal}
  {writes : List ListWrite} {lost : Bool}

/-- The step of a rehearsal goes on with the course of its session. -/
theorem step_course (course :
      Course name primaryKey observer ⟨rehearsal.session, rehearsal.board, writes, lost⟩)
    (stepped : rehearsal.step? = some next) : ∃ more,
      Course name primaryKey observer ⟨next.session, next.board, writes ++ more, lost⟩ := by
  obtain ⟨_, signal, _, _, told⟩ := step_eq stepped
  obtain ⟨session, board⟩ := Prod.mk.inj told
  rw [session, board]
  exact ⟨_, course.told signal⟩

/-- The closing of a rehearsal goes on with the course of its session. -/
theorem close_course (course :
      Course name primaryKey observer ⟨rehearsal.session, rehearsal.board, writes, lost⟩) :
    ∃ more, Course name primaryKey observer
      ⟨rehearsal.close.session, rehearsal.close.board, writes ++ more, lost⟩ := by
  have cancelled : Course name primaryKey observer
      ⟨rehearsal.cancel.session, rehearsal.cancel.board, writes, lost⟩ := course.cancelled
  obtain ⟨more, ended⟩ : ∃ more, Course name primaryKey observer
      ⟨(rehearsal.cancel.step?.getD rehearsal.cancel).session,
        (rehearsal.cancel.step?.getD rehearsal.cancel).board, writes ++ more, lost⟩ := by
    cases stepped : rehearsal.cancel.step? with
    | none => exact ⟨[], by rw [List.append_nil]; exact cancelled⟩
    | some next => exact step_course cancelled stepped
  refine ⟨more ++ (rehearsal.cancel.step?.getD rehearsal.cancel).board.newWrites
    rehearsal.close.board observer, ?_⟩
  rw [← List.append_assoc]
  exact ended.closed (stopped_of_cancelled rfl)

end Rehearsal

end LiveSearch
