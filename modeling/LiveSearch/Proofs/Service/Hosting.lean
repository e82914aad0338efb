import LiveSearch.Proofs.Service.Counter
import LiveSearch.Proofs.Session.Company
import Mathlib.Logic.Relation

/-! # Sessions on a board that anybody writes

What happens to a service is a sequence of small changes (`LiveSearch.Service.Evolves`): its
sessions take steps, are opened, told to end and closed, and others write and delete lists, those
of the sessions included. Throughout, the handles of all sessions have been given out by the board
(`LiveSearch.Board.Hosts`), and a list that a session has published is accounted for: its
incarnation has been withdrawn, or a session that is not closed has the handle of it
(`LiveSearch.Service.IsAccounted`, `LiveSearch.Service.isAccounted_run`).
-/

namespace LiveSearch

/-- The handle that the session of an id holds. -/
def handleOf? (sessions : Std.TreeMap Nat Running) (id : Nat) : Option Handle :=
  (sessions[id]?).bind fun running => running.session.phase.handle?

section Handles

variable {sessions : Std.TreeMap Nat Running} {id : Nat}

theorem handleOf?_of_found {running : Running} (found : sessions[id]? = some running) :
    handleOf? sessions id = running.session.phase.handle? := by
  rw [handleOf?, found, Option.bind_some]

theorem handleOf?_insert_self (running : Running) :
    handleOf? (sessions.insert id running) id = running.session.phase.handle? :=
  handleOf?_of_found Std.TreeMap.getElem?_insert_self

theorem handleOf?_insert {other : Nat} (different : id ≠ other) (running : Running) :
    handleOf? (sessions.insert id running) other = handleOf? sessions other := by
  rw [handleOf?, lookup_insert, if_neg different, handleOf?]

theorem filterMap_cons_handleOf? (ids : List Nat) :
    (id :: ids).filterMap (handleOf? sessions) =
      (handleOf? sessions id).toList ++ ids.filterMap (handleOf? sessions) := by
  cases held : handleOf? sessions id with
  | none => rw [List.filterMap_cons_none held, Option.toList_none, List.nil_append]
  | some handle => rw [List.filterMap_cons_some held, Option.toList_some, List.singleton_append]

/-- The other sessions keep their handles. -/
theorem filterMap_handleOf?_insert {ids : List Nat} (absent : id ∉ ids) (running : Running) :
    ids.filterMap (handleOf? (sessions.insert id running)) =
      ids.filterMap (handleOf? sessions) :=
  List.filterMap_congr fun other member =>
    handleOf?_insert (fun same : id = other => absent (same ▸ member)) running

end Handles

namespace Board

/-- The sessions share the board: it has given out the handles of any of them, each shares it with
others, and one that is closed has no handle. -/
structure Hosts (board : Board) (sessions : Std.TreeMap Nat Running) : Prop where
  issued : ∀ ids : List Nat, ids.Nodup → board.Issued (ids.filterMap (handleOf? sessions))
  shares : ∀ (id : Nat) (running : Running), sessions[id]? = some running →
    running.session.Shares board []
  closed : ∀ (id : Nat) (running : Running), sessions[id]? = some running →
    running.session.closed = true → running.session.phase = .stopped none

namespace Hosts

variable {board written : Board} {sessions : Std.TreeMap Nat Running} {id : Nat}

theorem of_empty (sound : board.IsSound) : board.Hosts ∅ where
  issued ids _ := by
    have none : ids.filterMap (handleOf? ∅) = [] :=
      List.filterMap_eq_nil_iff.mpr fun id _ => by
        rw [handleOf?, Std.TreeMap.getElem?_emptyc, Option.bind_none]
    rw [none]
    exact ⟨sound, List.forall_mem_nil _, List.Pairwise.nil⟩
  shares _ _ found := nomatch Std.TreeMap.getElem?_emptyc.symm.trans found
  closed _ _ found := nomatch Std.TreeMap.getElem?_emptyc.symm.trans found

variable (hosts : board.Hosts sessions)

include hosts

theorem sound : board.IsSound := (hosts.issued [] .nil).sound

/-- A session shares the board with any of the others. -/
theorem beside {running : Running} (found : sessions[id]? = some running) {ids : List Nat}
    (distinct : ids.Nodup) (absent : id ∉ ids) :
    running.session.Shares board (ids.filterMap (handleOf? sessions)) where
  issued := by
    have issued := hosts.issued (id :: ids) (List.nodup_cons.mpr ⟨absent, distinct⟩)
    rw [filterMap_cons_handleOf?, handleOf?_of_found found] at issued
    exact issued
  named := (hosts.shares id running found).named
  following := (hosts.shares id running found).following
  settled := (hosts.shares id running found).settled

/-- Others do something to the board. -/
theorem onward (passes : ∀ handles, board.Issued handles → written.Issued handles) :
    written.Hosts sessions where
  issued ids distinct := passes _ (hosts.issued ids distinct)
  shares id running found :=
    let shares := hosts.shares id running found
    ⟨passes _ shares.issued, shares.named, shares.following, shares.settled⟩
  closed := hosts.closed

/-- A session comes, or takes the place of another one. -/
private theorem place {running : Running}
    (takes : ∀ ids : List Nat, ids.Nodup → id ∉ ids →
      running.session.Shares written (ids.filterMap (handleOf? sessions)))
    (closed : running.session.closed = true → running.session.phase = .stopped none) :
    written.Hosts (sessions.insert id running) := by
  have issued (ids : List Nat) (distinct : ids.Nodup) :
      written.Issued (ids.filterMap (handleOf? (sessions.insert id running))) := by
    by_cases member : id ∈ ids
    · have absent : id ∉ ids.erase id := distinct.not_mem_erase
      have issued := (takes (ids.erase id) (distinct.erase id) absent).issued
      refine Issued.perm ?_ ((List.perm_cons_erase member).symm.filterMap _)
      rw [filterMap_cons_handleOf?, handleOf?_insert_self, filterMap_handleOf?_insert absent]
      exact issued
    · rw [filterMap_handleOf?_insert member]
      exact (takes ids distinct member).rest
  refine ⟨issued, fun other another found => ?_, fun other another found => ?_⟩
  · rcases lookup_insert_cases found with ⟨rfl, rfl⟩ | ⟨different, earlier⟩
    · exact takes [] .nil List.not_mem_nil
    · have shares := hosts.shares other another earlier
      refine ⟨?_, shares.named, shares.following, shares.settled⟩
      have alone := issued [other] (List.nodup_singleton other)
      rw [filterMap_cons_handleOf?, handleOf?_of_found found] at alone
      exact alone
  · rcases lookup_insert_cases found with ⟨rfl, rfl⟩ | ⟨_, earlier⟩
    · exact closed
    · exact hosts.closed other another earlier

/-- A session does something. -/
theorem replace {before after : Running} (found : sessions[id]? = some before)
    (passes : ∀ others, before.session.Shares board others → after.session.Shares written others)
    (closed : after.session.closed = true → after.session.phase = .stopped none) :
    written.Hosts (sessions.insert id after) :=
  hosts.place (fun _ distinct absent => passes _ (hosts.beside found distinct absent)) closed

/-- A session is opened. -/
theorem insert {running : Running} {name primaryKey : String}
    (new : running.session = Session.start name primaryKey) :
    board.Hosts (sessions.insert id running) := by
  refine hosts.place (fun ids distinct _ => .of_none (hosts.issued ids distinct) ?_) ?_
  · rw [new]
    rfl
  · rw [new]
    exact fun closed => absurd closed Bool.false_ne_true

end Hosts

end Board

namespace Session

variable {session after : Session} {board written : Board}

/-- A handle that is not pending is still held, or its incarnation has been withdrawn. -/
def HandsOn (session after : Session) (written : Board) : Prop :=
  ∀ handle, session.phase.handle? = some handle → handle.pending = false →
    written.isWithdrawn handle = true ∨ after.phase.handle? = some handle

/-- What a session does when it is told something withdraws nothing. -/
theorem Outcome.withdrawn {signal : Signal} (outcome : session.Outcome board signal after written)
    (settled : ∀ handle entries, session.phase = .following handle entries →
      handle.pending = false) : written.withdrawn = board.withdrawn := by
  cases outcome.effect settled with
  | published keys merging =>
      rcases session.publish_cases board keys with
        ⟨cause, _, refused⟩ | ⟨list, found, adopted⟩ | ⟨_, created⟩
      · rw [refused]
        exact (board.handleFor_writesOnly session.name).withdrawn
      · rw [adopted]
        exact Board.withdrawn_record _ _
      · rw [created]
        exact Board.withdrawn_record _ _
  | edited handle entries edit write list => exact Board.withdrawn_record _ write
  | _ => rfl

/-- A session gives a handle up only when it hears that the list has been deleted. -/
theorem Outcome.handsOn {signal : Signal} (outcome : session.Outcome board signal after written)
    (shares : session.Shares board [])
    (lost : ∀ handle entries, session.phase = .following handle entries →
      after.phase = .stopped none → board.isWithdrawn handle = true) :
    session.HandsOn after written := by
  intro handle held settled
  have early (before : session.phase.isEarly = true) : False :=
    nomatch (Phase.handle?_of_isEarly before).symm.trans held
  cases outcome.effect shares.following with
  | unchanged => exact .inr held
  | gathered phase before => exact (early before).elim
  | abandoned state before => exact (early before).elim
  | published keys merging => exact (early (by rw [merging]; rfl)).elim
  | edited owned entries edit write list following =>
      rw [following] at held
      exact .inr held
  | left owned entries state following =>
      rw [following] at held
      exact .inr held
  | detached owned entries following =>
      have withdrawn := lost owned entries following rfl
      rw [following] at held
      obtain rfl := Option.some.inj held
      exact .inl withdrawn

/-- A session that is closed withdraws the incarnation of its list. -/
theorem handsOn_finishClosing (shares : session.Shares board [])
    (stopped : session.phase.isStopped = true) :
    session.HandsOn (session.finishClosing board).1 (session.finishClosing board).2 := by
  intro handle held settled
  left
  have owned : session.phase = .stopped (some handle) := by
    cases phase : session.phase with
    | stopped owned =>
        rw [phase] at held
        exact congrArg Phase.stopped held
    | _ =>
        rw [phase] at stopped
        exact absurd stopped Bool.false_ne_true
  cases gone : board.isWithdrawn handle with
  | true =>
      simp only [finishClosing, owned, gone, ↓reduceIte]
  | false =>
      -- The list of the handle exists in its incarnation, so deleting it withdraws this one.
      obtain ⟨list, found, same⟩ :=
        ((shares.fits held).standing settled).resolve_left (Bool.eq_false_iff.mp gone)
      simp only [finishClosing, owned, gone, Bool.false_eq_true, ↓reduceIte, Handle.delete, settled]
      exact (board.withdrawn_deleteList handle.name handle.incarnation).mpr
        (.inr ⟨list, found, same⟩)

/-- Closing a session takes no withdrawal back. -/
theorem withdrawn_finishClosing (session : Session) (board : Board) {incarnation : Nat}
    (withdrawn : board.withdrawn.contains incarnation = true) :
    (session.finishClosing board).2.withdrawn.contains incarnation = true := by
  unfold finishClosing
  dsimp only
  split
  · rename_i handle _
    split
    · exact withdrawn
    · rcases handle.delete_cases board with ⟨_, same⟩ | ⟨_, _, same⟩ | ⟨_, _, same⟩
      · rw [same]
        change (board.withdrawn.insert handle.incarnation).contains incarnation = true
        rw [Std.TreeSet.contains_insert, withdrawn, Bool.or_true]
      · rw [same]
        exact withdrawn
      · rw [same]
        exact (board.deleteList_withdraws handle.name).withdrawn incarnation withdrawn
  · exact withdrawn

end Session

/-- A session that is told something keeps its handle, unless the list has been deleted. -/
theorem Running.Next.handsOn {running behind : Running} {board : Board}
    {database between : Database} {signal : Signal}
    (next : running.Next board database behind between signal)
    (shares : running.session.Shares board []) :
    running.session.HandsOn (running.session.receive board signal).1
      (running.session.receive board signal).2 :=
  (running.session.receive_outcome board signal).handsOn shares fun handle entries following =>
    next.withdrawn_of_stopped following (shares.following handle entries following)

namespace Service

/-- A small change of a service: a session takes a step, is told to end, is closed, or is opened;
others delete or write a list; or the store, the entries, the reports and everything about the
board but its lists change. -/
inductive Evolves (service : Service) : Service → Prop
  | stepped (id : Nat) (next : Service) (step : service.step? id = some next) :
      Evolves service next
  | cancelled (id : Nat) : Evolves service (service.modifySession id Session.cancel)
  | closed (id : Nat) (stopped : service.hasStopped id = true) :
      Evolves service (service.finishClosing id)
  | opened (name : String) (descriptor : Descriptor) (entries : Std.TreeMap String Entry) :
      Evolves service { (service.openSession name descriptor).2 with entries }
  | deleted (name : String) :
      Evolves service (service.withBoard (service.board.deleteList name).1)
  | written (name : String) (edit : Handle.Edit) :
      Evolves service (service.withBoard ((service.board.handleFor name).1.perform
        (service.board.handleFor name).2 edit).2.1)
  | around (database : Database) (other : Board) (entries : Std.TreeMap String Entry)
      (detachments : List Detachment) :
      Evolves service
        { service with database, board := service.board.around other, entries, detachments }

/-- The board hosts the sessions, and every session that was ever opened is kept. -/
structure IsHosted (service : Service) : Prop where
  hosts : service.board.Hosts service.running
  numbered : ∀ id, (service.running[id]?).isSome = true ↔ 0 < id ∧ id < service.nextSession
  begun : 0 < service.nextSession

/-- A list that exists in an incarnation is accounted for: the incarnation has been withdrawn, or it
is that of the list whose handle a session holds. -/
def IsAccounted (service : Service) (incarnation : Nat) : Prop :=
  service.board.withdrawn.contains incarnation = true ∨
    ∃ id handle, handleOf? service.running id = some handle ∧ handle.pending = false ∧
      handle.incarnation = incarnation

variable {service next : Service}

/-- No session has been opened before the first one. -/
theorem isHosted_start {board : Board} (sound : board.IsSound) (primaryKey : String)
    (database : Database) : (start primaryKey database board).IsHosted where
  hosts := .of_empty sound
  numbered id := by
    change ((∅ : Std.TreeMap Nat Running)[id]?).isSome = true ↔ 0 < id ∧ id < 1
    rw [Std.TreeMap.getElem?_emptyc]
    exact ⟨fun held => absurd held Bool.false_ne_true,
      fun ⟨positive, known⟩ => absurd positive (Nat.not_lt.mpr (Nat.le_of_lt_succ known))⟩
  begun := Nat.one_pos

/-- A session that has not been opened yet is not found. -/
theorem IsHosted.absent (hosted : service.IsHosted) :
    service.running[service.nextSession]? = none := by
  cases found : service.running[service.nextSession]? with
  | none => rfl
  | some running =>
      have known := (hosted.numbered service.nextSession).mp (by rw [found, Option.isSome_some])
      exact absurd known.2 (Nat.lt_irrefl _)

/-- The list that a session follows is accounted for. -/
theorem isAccounted_of_following (hosts : service.board.Hosts service.running) {id : Nat}
    {running : Running} {handle : Handle} {entries : List String}
    (found : service.running[id]? = some running)
    (following : running.session.phase = .following handle entries) :
    service.IsAccounted handle.incarnation := by
  refine .inr ⟨id, handle, ?_, (hosts.shares id running found).following handle entries following,
    rfl⟩
  rw [handleOf?_of_found found, following]
  rfl

/-- When all sessions are closed, no list exists that is accounted for. -/
theorem IsAccounted.gone {incarnation : Nat} (accounted : service.IsAccounted incarnation)
    (hosts : service.board.Hosts service.running)
    (closed : ∀ (id : Nat) (running : Running), service.running[id]? = some running →
      running.session.closed = true) {name : String} {list : PublishedList}
    (listed : service.board.lists[name]? = some list) : list.incarnation ≠ incarnation := by
  rintro rfl
  rcases accounted with withdrawn | ⟨id, handle, held, _, _⟩
  · exact absurd ((hosts.sound.listed name list listed).2.symm.trans withdrawn) Bool.false_ne_true
  · obtain ⟨running, found, handles⟩ := Option.bind_eq_some_iff.mp held
    rw [hosts.closed id running found (closed id running found)] at handles
    exact nomatch handles

section Replacing

variable {id : Nat} {before after : Running}

/-- The sessions keep their numbers when one takes the place of another one. -/
private theorem IsHosted.numbered_insert (hosted : service.IsHosted)
    (found : service.running[id]? = some before) (other : Nat) :
    ((service.running.insert id after)[other]?).isSome = true ↔
      0 < other ∧ other < service.nextSession := by
  rw [lookup_insert]
  split
  · rename_i same
    subst same
    rw [← hosted.numbered id, found]
    exact ⟨fun _ => rfl, fun _ => rfl⟩
  · exact hosted.numbered other

/-- A session does something and hands its list on. -/
private theorem IsAccounted.replace {incarnation : Nat} {board : Board}
    (accounted : service.IsAccounted incarnation) (found : service.running[id]? = some before)
    (withdrawn : service.board.withdrawn.contains incarnation = true →
      board.withdrawn.contains incarnation = true)
    (handsOn : before.session.HandsOn after.session board) :
    IsAccounted { service with board, running := service.running.insert id after }
      incarnation := by
  rcases accounted with gone | ⟨other, handle, held, settled, rfl⟩
  · exact .inl (withdrawn gone)
  · by_cases same : id = other
    · subst same
      rw [handleOf?_of_found found] at held
      refine (handsOn handle held settled).imp_right fun kept => ⟨id, handle, ?_, settled, rfl⟩
      exact (handleOf?_insert_self after).trans kept
    · exact .inr ⟨other, handle, (handleOf?_insert same after).trans held, settled, rfl⟩

end Replacing

/-- A session that takes a step. -/
private theorem isHosted_step? {id : Nat} (hosted : service.IsHosted)
    (step : service.step? id = some next) : next.IsHosted := by
  obtain ⟨running, behind, between, signal, found, told, rfl⟩ := step?_cases step
  have outcome := running.session.receive_outcome service.board signal
  refine ⟨hosted.hosts.replace found (fun others shares => ?_) fun closed => ?_,
    hosted.numbered_insert found, hosted.begun⟩
  · rw [told.session_tell]
    exact shares.outcome outcome
  · -- A session that is told something has not ended, so it is not closed.
    rw [told.session_tell, outcome.keeps.2.2.2] at closed
    have stopped := hosted.hosts.closed id running found closed
    exact absurd (told.going.symm.trans (congrArg Phase.isStopped stopped)) Bool.false_ne_true

/-- Every small change leaves the sessions hosted. -/
theorem Evolves.isHosted (evolves : service.Evolves next) (hosted : service.IsHosted) :
    next.IsHosted := by
  cases evolves with
  | stepped id next step => exact isHosted_step? hosted step
  | cancelled id =>
      unfold modifySession
      cases found : service.running[id]? with
      | none => exact hosted
      | some running =>
          refine ⟨hosted.hosts.replace found (fun others shares => ?_)
            (hosted.hosts.closed id running found), hosted.numbered_insert found, hosted.begun⟩
          exact ⟨shares.issued, shares.named, shares.following, shares.settled⟩
  | closed id stopped =>
      unfold finishClosing
      cases found : service.running[id]? with
      | none => exact hosted
      | some running =>
          exact ⟨hosted.hosts.replace found (fun others shares => shares.finishClosing)
            fun _ => rfl, hosted.numbered_insert found, hosted.begun⟩
  | opened name descriptor entries =>
      refine ⟨hosted.hosts.insert rfl, fun other => ?_, Nat.succ_pos _⟩
      change ((service.running.insert service.nextSession _)[other]?).isSome = true ↔
        0 < other ∧ other < service.nextSession + 1
      rw [lookup_insert]
      split
      · rename_i same
        subst same
        exact ⟨fun _ => ⟨hosted.begun, Nat.lt_succ_self _⟩, fun _ => rfl⟩
      · rw [hosted.numbered other]
        omega
  | deleted name =>
      exact ⟨hosted.hosts.onward fun _ issued => issued.deleteList name, hosted.numbered,
        hosted.begun⟩
  | written name edit =>
      refine ⟨hosted.hosts.onward fun handles issued => ?_, hosted.numbered, hosted.begun⟩
      rw [Handle.perform_eq]
      exact ((issued.take name).write _ _).sublist (List.sublist_cons_self _ _)
  | around database other entries detachments =>
      exact ⟨hosted.hosts.onward fun _ issued => issued.around other, hosted.numbered, hosted.begun⟩

/-- Every small change leaves a list accounted for. -/
theorem Evolves.isAccounted (evolves : service.Evolves next) (hosted : service.IsHosted)
    {incarnation : Nat} (accounted : service.IsAccounted incarnation) :
    next.IsAccounted incarnation := by
  cases evolves with
  | stepped id next step =>
      obtain ⟨running, behind, between, signal, found, told, rfl⟩ := step?_cases step
      have outcome := running.session.receive_outcome service.board signal
      refine accounted.replace found (fun gone => ?_) ?_
      · rw [outcome.withdrawn (hosted.hosts.shares id running found).following]
        exact gone
      · have handsOn := told.handsOn (hosted.hosts.shares id running found)
        rw [← told.session_tell] at handsOn
        exact handsOn
  | cancelled id =>
      unfold modifySession
      cases found : service.running[id]? with
      | none => exact accounted
      | some running =>
          exact accounted.replace found (fun gone => gone) fun handle held _ => .inr held
  | closed id stopped =>
      unfold finishClosing
      cases found : service.running[id]? with
      | none => exact accounted
      | some running =>
          rw [hasStopped, found, Option.any_some] at stopped
          exact accounted.replace found (running.session.withdrawn_finishClosing service.board)
            (running.session.handsOn_finishClosing (hosted.hosts.shares id running found) stopped)
  | opened name descriptor entries =>
      refine accounted.imp_right ?_
      rintro ⟨id, handle, held, settled, same⟩
      refine ⟨id, handle, (handleOf?_insert ?_ _).trans held, settled, same⟩
      rintro rfl
      rw [handleOf?, hosted.absent, Option.bind_none] at held
      cases held
  | deleted name =>
      exact accounted.imp_left ((service.board.deleteList_withdraws name).withdrawn incarnation)
  | written name edit =>
      refine accounted.imp_left fun gone => ?_
      obtain ⟨_, writes⟩ := hosted.hosts.sound.write_new name edit.apply
        (edit.write (service.board.handleFor name).1.name)
      rw [← Handle.perform_eq] at writes
      exact writes.withdrawn ▸ gone
  | around database other entries detachments => exact accounted

section Runs

variable (evolution : Relation.ReflTransGen Evolves service next) (hosted : service.IsHosted)

include evolution hosted

theorem isHosted_run : next.IsHosted := by
  induction evolution with
  | refl => exact hosted
  | tail _ evolves ih => exact evolves.isHosted ih

/-- Once a list has been published it is accounted for. -/
theorem isAccounted_run {incarnation : Nat} (accounted : service.IsAccounted incarnation) :
    next.IsAccounted incarnation := by
  induction evolution with
  | refl => exact accounted
  | tail earlier evolves ih => exact evolves.isAccounted (isHosted_run earlier hosted) ih

end Runs

section Waiting

variable {id : Nat}

/-- A step of a session is a change, unless it can only wait. -/
private theorem evolves_advance (service : Service) (id : Nat) :
    Relation.ReflTransGen Evolves service (service.advance id) := by
  rw [advance]
  cases stepped : service.step? id with
  | none => exact .refl
  | some next => exact .single (.stepped id next stepped)

/-- Waiting for a session that has been told to end and closing it is a sequence of changes. -/
theorem evolves_awaitClosing (told : ∀ running : Running, service.running[id]? = some running →
      running.session.cancelled = true) :
    Relation.ReflTransGen Evolves service (service.awaitClosing id) := by
  cases found : service.running[id]? with
  | none =>
      have idle : service.advance id = service := by
        simp only [advance, step?, found, Option.bind_eq_bind, Option.bind_none, Option.getD_none]
      rw [awaitClosing, awaitEnd, idle, idle, finishClosing, found]
  | some running =>
      have identified : service.identified id =
          some (running.session.name, running.session.closed, true) := by
        rw [Service.identified, found, Option.map_some, identity, told running found]
      exact ((evolves_advance service id).trans (evolves_advance _ id)).tail
        (.closed id (hasStopped_awaitEnd identified))

/-- So is the closing of several sessions. -/
theorem evolves_closeEach (ids : List Nat) :
    Relation.ReflTransGen Evolves service (service.closeEach ids) := by
  induction ids generalizing service with
  | nil => exact .refl
  | cons id rest ih =>
      refine .trans (.head (.cancelled id) (evolves_awaitClosing fun running found => ?_)) ih
      unfold modifySession at found
      cases held : service.running[id]? with
      | none =>
          rw [held] at found
          exact nomatch held.symm.trans found
      | some earlier =>
          rw [held] at found
          obtain ⟨_, rfl⟩ | ⟨different, _⟩ := lookup_insert_cases found
          · rfl
          · exact absurd rfl different

/-- And the closing of all sessions. -/
theorem evolves_closeAll : Relation.ReflTransGen Evolves service service.closeAll :=
  .head (.around service.database service.board ∅ service.detachments) (evolves_closeEach _)

/-- Whatever the registry does is a sequence of changes. -/
theorem Registers.evolves {opening : Option String} {result : Service × Option Nat}
    (registers : service.Registers opening result) :
    Relation.ReflTransGen Evolves service result.1 := by
  cases registers with
  | unchanged => exact .refl
  | counted => exact .single (.around service.database service.board _ service.detachments)
  | removed _ name entry found =>
      exact .head (.around service.database service.board (service.entries.erase name)
        service.detachments) (.single (.cancelled entry.session))
  | opened name descriptor => exact .single (.opened name descriptor _)

end Waiting

end Service

end LiveSearch
