import LiveSearch.Proofs.Board.Basic
import LiveSearch.Proofs.Session.KeySet
import LiveSearch.Session

/-! # What a signal makes of a session

Whatever a session is told, one of a few things becomes of it and of the board
(`LiveSearch.Session.Outcome`, `LiveSearch.Session.receive_outcome`): before its list is published
it gathers keys or gives up, publishing happens in one write, and from then on a signal leads to at
most one write to the list of the handle. Publishing and the two kinds of change are described by
what the write behind them does (`LiveSearch.Session.publish_cases`,
`LiveSearch.Session.listRecord_cases`, `LiveSearch.Session.unlistRecord_cases`). While the handle is
settled this leaves one way to write to a list that is followed (`LiveSearch.Session.Effect`).
-/

namespace LiveSearch

namespace Phase

/-- Nothing has been published yet. -/
def isEarly : Phase → Bool
  | opening => true
  | collecting _ => true
  | merging _ => true
  | following _ _ => false
  | stopped _ => false

/-- A worker that has published nothing has not ended. -/
theorem isStopped_of_isEarly {phase : Phase} (early : phase.isEarly = true) :
    phase.isStopped = false := by
  cases phase with
  | stopped owned => exact absurd early Bool.false_ne_true
  | _ => rfl

/-- The worker reads its changefeed, or has ended. -/
def readsFeed : Phase → Bool
  | opening => false
  | collecting _ => false
  | _ => true

theorem ne_opening_of_readsFeed {phase : Phase} (reads : phase.readsFeed = true) :
    phase ≠ .opening := by
  rintro rfl
  exact absurd reads Bool.false_ne_true

/-- A worker that reads its changefeed merges what it reads into its keys, or into its list. -/
theorem cases_of_readsFeed {phase : Phase} (reads : phase.readsFeed = true)
    (going : phase.isStopped = false) :
    (∃ keys, phase = .merging keys) ∨ ∃ handle entries, phase = .following handle entries := by
  cases phase with
  | merging keys => exact .inl ⟨keys, rfl⟩
  | following handle entries => exact .inr ⟨handle, entries, rfl⟩
  | stopped owned => exact absurd going.symm Bool.false_ne_true
  | _ => exact absurd reads Bool.false_ne_true

/-- The gathered keys are exact. -/
def IsExact : Phase → Prop
  | collecting keys => keys.IsExact
  | merging keys => keys.IsExact
  | _ => True

end Phase

namespace Session

variable (session : Session) (board : Board)

/-- The session when its worker has ended. -/
def ended (owned : Option Handle) (state : SessionState) : Session :=
  { session with phase := .stopped owned, state }

/-- The session when it has published its list. -/
def ready (handle : Handle) (entries : List String) : Session :=
  { session with phase := .following handle entries, state := .ready }

section Gathering

variable {keys : KeySet}

theorem addKey_isExact (exact : keys.IsExact) (record : Json) :
    (session.addKey keys record).IsExact := by
  unfold addKey
  cases keyOf? session.primaryKey record with
  | none => exact exact
  | some key => exact exact.insert key

theorem dropKey_isExact (exact : keys.IsExact) (record : Json) :
    (session.dropKey keys record).IsExact := by
  unfold dropKey
  cases keyOf? session.primaryKey record with
  | none => exact exact
  | some key => exact exact.erase key

theorem mergeChange_isExact (exact : keys.IsExact) (old new : Option Json) :
    (session.mergeChange keys old new).IsExact := by
  unfold mergeChange
  cases old with
  | none =>
      cases new with
      | none => exact exact
      | some record => exact session.addKey_isExact exact record
  | some left =>
      have without := session.dropKey_isExact exact left
      cases new with
      | none => exact without
      | some record => exact session.addKey_isExact without record

end Gathering

/-- What a signal makes of a session and of the board. -/
inductive Outcome (signal : Signal) : Session → Board → Prop
  | unchanged : Outcome signal session board
  /-- More keys have been gathered, or the worker waits for something else. -/
  | gathered (phase : Phase) (early : session.phase.isEarly = true)
      (still : phase.isEarly = true) (exact : session.phase.IsExact → phase.IsExact)
      (onward : session.phase.readsFeed = true → phase.readsFeed = true) :
      Outcome signal (session.goOn phase) board
  /-- The worker has ended without a list. -/
  | abandoned (state : SessionState) (early : session.phase.isEarly = true)
      (reason : state = session.state ∨ ∃ cause, state = .failed (.initialRetrieval cause)) :
      Outcome signal (session.ended none state) board
  | published (keys : KeySet) (merging : session.phase = .merging keys)
      (told : signal = .event (.ok .ready)) :
      Outcome signal (session.publish board keys).1 (session.publish board keys).2
  | listed (handle : Handle) (entries : List String) (record : Json)
      (following : session.phase = .following handle entries)
      (told : signal = .event (.ok (.change none (some record)))) :
      Outcome signal (session.listRecord board handle entries record).1
        (session.listRecord board handle entries record).2
  | unlisted (handle : Handle) (entries : List String) (record : Json)
      (following : session.phase = .following handle entries)
      (told : signal = .event (.ok (.change (some record) none))) :
      Outcome signal (session.unlistRecord board handle entries record).1
        (session.unlistRecord board handle entries record).2
  /-- The worker has ended and leaves its list behind. -/
  | left (handle : Handle) (entries : List String) (state : SessionState)
      (following : session.phase = .following handle entries)
      (reason : state = session.state ∨ ∃ cause, state = .failed (.changeNotification cause)) :
      Outcome signal (session.ended (some handle) state) board
  /-- The worker has ended because its list has been deleted. -/
  | detached (handle : Handle) (entries : List String)
      (following : session.phase = .following handle entries) (told : signal = .listDeleted) :
      Outcome signal (session.ended none .closed) board

section Receiving

variable {session board}

private theorem receiveMerging_outcome {keys : KeySet} (merging : session.phase = .merging keys)
    (signal : Signal) :
    session.Outcome board signal (session.receiveMerging board keys signal).1
      (session.receiveMerging board keys signal).2 := by
  have early : session.phase.isEarly = true := by
    rw [merging]
    rfl
  cases signal with
  | event item =>
      cases item with
      | error cause => exact .abandoned _ early (.inr ⟨cause, rfl⟩)
      | ok event =>
          cases event with
          | initial =>
              exact .gathered (.merging .empty) early rfl
                (fun _ => KeySet.isExact_empty) fun _ => rfl
          | ready => exact .published keys merging rfl
          | change old new =>
              refine .gathered (.merging (session.mergeChange keys old new)) early rfl
                (fun exact => ?_) fun _ => rfl
              rw [merging] at exact
              exact session.mergeChange_isExact exact old new
  | feedEnd => exact .abandoned _ early (.inr ⟨_, rfl⟩)
  | _ => exact .unchanged

private theorem receiveFollowing_outcome {handle : Handle} {entries : List String}
    (following : session.phase = .following handle entries) (signal : Signal) :
    session.Outcome board signal (session.receiveFollowing board handle entries signal).1
      (session.receiveFollowing board handle entries signal).2 := by
  cases signal with
  | event item =>
      cases item with
      | error cause => exact .left handle entries _ following (.inr ⟨cause, rfl⟩)
      | ok event =>
          cases event with
          | initial => exact .unchanged
          | ready => exact .unchanged
          | change old new =>
              cases old with
              | none =>
                  cases new with
                  | none => exact .unchanged
                  | some record => exact .listed handle entries record following rfl
              | some left =>
                  cases new with
                  | none => exact .unlisted handle entries left following rfl
                  | some right => exact .unchanged
  | feedEnd => exact .left handle entries _ following (.inr ⟨_, rfl⟩)
  | listDeleted => exact .detached handle entries following rfl
  | _ => exact .unchanged

variable (session board) in
/-- Every signal has one of these outcomes. -/
theorem receive_outcome (signal : Signal) :
    session.Outcome board signal (session.receive board signal).1
      (session.receive board signal).2 := by
  unfold receive
  cases phase : session.phase with
  | stopped owned => exact .unchanged
  | opening =>
      have early : session.phase.isEarly = true := by
        rw [phase]
        rfl
      cases signal with
      | cancelled => exact .abandoned session.state early (.inl rfl)
      | refused cause => exact .abandoned _ early (.inr ⟨cause, rfl⟩)
      | opened =>
          refine .gathered (.collecting .empty) early rfl (fun _ => KeySet.isExact_empty)
            fun reads => ?_
          rw [phase] at reads
          exact absurd reads Bool.false_ne_true
      | _ => exact .unchanged
  | collecting keys =>
      have early : session.phase.isEarly = true := by
        rw [phase]
        rfl
      cases signal with
      | cancelled => exact .abandoned session.state early (.inl rfl)
      | row item =>
          cases item with
          | error cause => exact .abandoned _ early (.inr ⟨cause, rfl⟩)
          | ok record =>
              refine .gathered (.collecting (session.addKey keys record)) early rfl
                (fun exact => ?_) fun reads => ?_
              · rw [phase] at exact
                exact session.addKey_isExact exact record
              · rw [phase] at reads
                exact reads
      | rowsEnd =>
          refine .gathered (.merging keys) early rfl (fun exact => ?_) fun _ => rfl
          rw [phase] at exact
          exact exact
      | _ => exact .unchanged
  | merging keys =>
      by_cases cancelled : signal = .cancelled
      · subst cancelled
        refine .abandoned session.state ?_ (.inl rfl)
        rw [phase]
        rfl
      · cases signal with
        | cancelled => exact absurd rfl cancelled
        | _ => exact receiveMerging_outcome phase _
  | following handle entries =>
      by_cases cancelled : signal = .cancelled
      · subst cancelled
        exact .left handle entries session.state phase (.inl rfl)
      · cases signal with
        | cancelled => exact absurd rfl cancelled
        | _ => exact receiveFollowing_outcome phase _

end Receiving

variable {session} in
/-- A worker that has ended does not listen. -/
theorem receive_of_stopped (stopped : session.phase.isStopped = true) (signal : Signal) :
    session.receive board signal = (session, board) := by
  unfold receive
  cases phase : session.phase with
  | stopped owned => rfl
  | _ =>
      rw [phase] at stopped
      exact absurd stopped Bool.false_ne_true

/-- A worker that is cancelled ends. -/
theorem isStopped_cancelled : (session.receive board .cancelled).1.phase.isStopped = true := by
  unfold receive
  cases phase : session.phase with
  | stopped owned =>
      change session.phase.isStopped = true
      rw [phase]
      rfl
  | _ => rfl

/-- Publishing is refused, or it replaces the entries of the list that exists, or it creates the
list. -/
theorem publish_cases (keys : KeySet) :
    (∃ cause, (board.handleFor session.name).1.IsBarred (board.handleFor session.name).2 ∧
      session.publish board keys =
        (session.ended (some (board.handleFor session.name).1) (.failed (.initialRetrieval cause)),
          (board.handleFor session.name).2)) ∨
    (∃ list : PublishedList, board.lists[session.name]? = some list ∧
      session.publish board keys =
        (session.ready ⟨session.name, list.incarnation, false⟩ keys.toList,
          Handle.rewritten ⟨session.name, list.incarnation, false⟩ board (fun _ => keys.toList)
            (.set session.name keys.toList) list)) ∨
    (board.lists[session.name]? = none ∧
      session.publish board keys =
        (session.ready ⟨session.name, board.nextIncarnation, false⟩ keys.toList,
          Handle.created ⟨session.name, board.nextIncarnation, true⟩ board.reserve
            (fun _ => keys.toList) (.set session.name keys.toList))) := by
  unfold publish Handle.setEntries
  simp only [Board.name_handleFor]
  rcases board.write_new_cases session.name (fun _ => keys.toList)
    (.set session.name keys.toList) with
    ⟨cause, barred, refused⟩ | ⟨list, found, written⟩ | ⟨absent, written⟩
  · left
    refine ⟨cause, barred, ?_⟩
    rw [refused]
    rfl
  · right
    left
    refine ⟨list, found, ?_⟩
    rw [written]
    rfl
  · right
    right
    refine ⟨absent, ?_⟩
    rw [written]
    rfl

section Following

variable {handle : Handle} {entries : List String}

/-- A record that comes into the selection has no key or is listed already; or its key is refused
and nothing else changes; or its key comes at the end of the entries and of the list. -/
theorem listRecord_cases (settled : handle.pending = false) (record : Json) :
    (session.listRecord board handle entries record = (session, board) ∧
      ∀ key, keyOf? session.primaryKey record = some key → key ∈ entries) ∨
    (∃ cause, handle.IsBarred board ∧ session.listRecord board handle entries record =
      (session.ended (some handle) (.failed (.changeNotification cause)), board)) ∨
    (∃ key list, keyOf? session.primaryKey record = some key ∧ key ∉ entries ∧
      board.lists[handle.name]? = some list ∧
      session.listRecord board handle entries record =
        (session.goOn (.following handle (entries ++ [key])),
          handle.rewritten board (· ++ [key]) (.add handle.name key) list)) := by
  cases known : keyOf? session.primaryKey record with
  | none =>
      left
      refine ⟨?_, fun key same => absurd same (by simp)⟩
      simp only [listRecord, known]
  | some key =>
      by_cases present : key ∈ entries
      · left
        refine ⟨?_, fun other same => (Option.some.inj same) ▸ present⟩
        simp only [listRecord, known, List.contains_iff_mem, present, ↓reduceIte]
      · right
        have absent : entries.contains key = false := by
          rw [Bool.eq_false_iff, ne_eq, List.contains_iff_mem]
          exact present
        rcases handle.write_cases board (· ++ [key]) (.add handle.name key) with
          ⟨cause, barred, refused⟩ | ⟨list, found, written⟩ | ⟨_, pending, _⟩
        · left
          refine ⟨cause, barred, ?_⟩
          simp only [listRecord, known, absent, Bool.false_eq_true, ↓reduceIte, Handle.addEntry,
            refused]
          rfl
        · right
          refine ⟨key, list, rfl, present, found, ?_⟩
          simp only [listRecord, known, absent, Bool.false_eq_true, ↓reduceIte, Handle.addEntry,
            written]
        · rw [settled] at pending
          exact absurd pending (by decide)

/-- A record that leaves the selection has no key or is not listed; or the removal of its key is
refused and nothing else changes; or its key leaves the entries and the list. -/
theorem unlistRecord_cases (settled : handle.pending = false) (record : Json) :
    (session.unlistRecord board handle entries record = (session, board) ∧
      ∀ key, keyOf? session.primaryKey record = some key → key ∉ entries) ∨
    (∃ cause, handle.IsBarred board ∧ session.unlistRecord board handle entries record =
      (session.ended (some handle) (.failed (.changeNotification cause)), board)) ∨
    (∃ key list, keyOf? session.primaryKey record = some key ∧ key ∈ entries ∧
      board.lists[handle.name]? = some list ∧
      session.unlistRecord board handle entries record =
        (session.goOn (.following handle (entries.erase key)),
          handle.rewritten board (·.erase key) (.remove handle.name key) list)) := by
  cases known : keyOf? session.primaryKey record with
  | none =>
      left
      refine ⟨?_, fun key same => absurd same (by simp)⟩
      simp only [unlistRecord, known]
  | some key =>
      by_cases present : key ∈ entries
      · right
        have held : entries.contains key = true := List.contains_iff_mem.mpr present
        rcases handle.write_cases board (·.erase key) (.remove handle.name key) with
          ⟨cause, barred, refused⟩ | ⟨list, found, written⟩ | ⟨_, pending, _⟩
        · left
          refine ⟨cause, barred, ?_⟩
          simp only [unlistRecord, known, held, Bool.not_true, Bool.false_eq_true, ↓reduceIte,
            Handle.removeEntry, refused]
          rfl
        · right
          refine ⟨key, list, rfl, present, found, ?_⟩
          simp only [unlistRecord, known, held, Bool.not_true, Bool.false_eq_true, ↓reduceIte,
            Handle.removeEntry, written]
        · rw [settled] at pending
          exact absurd pending (by decide)
      · left
        refine ⟨?_, fun other same => (Option.some.inj same) ▸ present⟩
        have absent : entries.contains key = false := by
          rw [Bool.eq_false_iff, ne_eq, List.contains_iff_mem]
          exact present
        simp only [unlistRecord, known, absent, Bool.not_false, ↓reduceIte]

end Following

section Turning

variable {session} {handle : Handle} {entries : List String}

/-- Publishing ends the worker with a failure, or makes it follow its list. -/
theorem publish_turn (keys : KeySet) :
    (∃ handle cause, (session.publish board keys).1 =
      session.ended (some handle) (.failed (.initialRetrieval cause))) ∨
    ∃ handle, (session.publish board keys).1 = session.ready handle keys.toList := by
  rcases session.publish_cases board keys with ⟨cause, _, same⟩ | ⟨_, _, same⟩ | ⟨_, same⟩
  · exact .inl ⟨_, cause, by rw [same]⟩
  · exact .inr ⟨_, by rw [same]⟩
  · exact .inr ⟨_, by rw [same]⟩

variable (session) in
/-- What a record makes of a session that follows its list: it goes on, or ends with a failure. -/
inductive Turn : Session → Prop
  | following (handle : Handle) (entries : List String) :
      Turn (session.goOn (.following handle entries))
  | broken (handle : Handle) (cause : ServiceError) :
      Turn (session.ended (some handle) (.failed (.changeNotification cause)))

/-- A session that follows its list can stay as it is. -/
private theorem Turn.still (following : session.phase = .following handle entries) :
    session.Turn session := by
  have same : session = session.goOn (.following handle entries) := by
    rw [← following]
    rfl
  rw [same]
  exact .following handle entries

theorem listRecord_turn (following : session.phase = .following handle entries) (record : Json) :
    session.Turn (session.listRecord board handle entries record).1 := by
  unfold listRecord
  split
  · exact .still following
  · split
    · exact .still following
    · split
      · exact .broken _ _
      · exact .following _ _

theorem unlistRecord_turn (following : session.phase = .following handle entries) (record : Json) :
    session.Turn (session.unlistRecord board handle entries record).1 := by
  unfold unlistRecord
  split
  · exact .still following
  · split
    · exact .still following
    · split
      · exact .broken _ _
      · exact .following _ _

variable {after : Session}

theorem Turn.keeps (turn : session.Turn after) :
    after.name = session.name ∧ after.primaryKey = session.primaryKey ∧
      after.cancelled = session.cancelled ∧ after.closed = session.closed := by
  cases turn with
  | following handle entries => exact ⟨rfl, rfl, rfl, rfl⟩
  | broken handle cause => exact ⟨rfl, rfl, rfl, rfl⟩

theorem Turn.readsFeed (turn : session.Turn after) : after.phase.readsFeed = true := by
  cases turn with
  | following handle entries => rfl
  | broken handle cause => rfl

end Turning

section Consequences

variable {session board} {signal : Signal} {after : Session} {written : Board}

/-- No signal touches the identity of a session, nor whether it is cancelled or closed. -/
theorem Outcome.keeps (outcome : session.Outcome board signal after written) :
    after.name = session.name ∧ after.primaryKey = session.primaryKey ∧
      after.cancelled = session.cancelled ∧ after.closed = session.closed := by
  cases outcome with
  | unchanged => exact ⟨rfl, rfl, rfl, rfl⟩
  | gathered phase early still exact onward => exact ⟨rfl, rfl, rfl, rfl⟩
  | abandoned state early => exact ⟨rfl, rfl, rfl, rfl⟩
  | published keys merging =>
      rcases publish_turn board keys with ⟨owned, cause, same⟩ | ⟨owned, same⟩
      · rw [same]
        exact ⟨rfl, rfl, rfl, rfl⟩
      · rw [same]
        exact ⟨rfl, rfl, rfl, rfl⟩
  | listed handle entries record following => exact (listRecord_turn board following record).keeps
  | unlisted handle entries record following =>
      exact (unlistRecord_turn board following record).keeps
  | left handle entries state following => exact ⟨rfl, rfl, rfl, rfl⟩
  | detached handle entries following => exact ⟨rfl, rfl, rfl, rfl⟩

/-- A signal lets the state as it is, or it is the end of the worker or the publishing of its
list. -/
theorem Outcome.state_cases (outcome : session.Outcome board signal after written) :
    after.state = session.state ∨ (∃ error, after.state = .failed error) ∨
    (∃ keys, session.phase = .merging keys ∧ signal = .event (.ok .ready) ∧
      after = (session.publish board keys).1) ∨
    (session.detaches signal = true ∧ after.state = .closed) := by
  have turned {after : Session} (turn : session.Turn after) :
      after.state = session.state ∨ ∃ error, after.state = .failed error := by
    cases turn with
    | following handle entries => exact .inl rfl
    | broken handle cause => exact .inr ⟨_, rfl⟩
  cases outcome with
  | unchanged => exact .inl rfl
  | gathered phase early still exact onward => exact .inl rfl
  | abandoned state early reason =>
      rcases reason with same | ⟨cause, failed⟩
      · exact .inl same
      · exact .inr (.inl ⟨_, failed⟩)
  | published keys merging told => exact .inr (.inr (.inl ⟨keys, merging, told, rfl⟩))
  | listed handle entries record following =>
      rcases turned (listRecord_turn board following record) with same | failed
      · exact .inl same
      · exact .inr (.inl failed)
  | unlisted handle entries record following =>
      rcases turned (unlistRecord_turn board following record) with same | failed
      · exact .inl same
      · exact .inr (.inl failed)
  | left handle entries state following reason =>
      rcases reason with same | ⟨cause, failed⟩
      · exact .inl same
      · exact .inr (.inl ⟨_, failed⟩)
  | detached handle entries following told =>
      refine .inr (.inr (.inr ⟨?_, rfl⟩))
      simp only [detaches, following, told]

/-- What a write to a list makes of its entries: a key that is absent comes behind them, or one that
is present goes. -/
inductive Edits (handle : Handle) (entries : List String) :
    (List String → List String) → ListWrite → Prop
  | add (key : String) (absent : key ∉ entries) :
      Edits handle entries (· ++ [key]) (.add handle.name key)
  | remove (key : String) (present : key ∈ entries) :
      Edits handle entries (·.erase key) (.remove handle.name key)

theorem Edits.nodup {handle : Handle} {entries : List String} {edit : List String → List String}
    {write : ListWrite} (edits : Edits handle entries edit write) (nodup : entries.Nodup) :
    (edit entries).Nodup := by
  cases edits with
  | add key absent =>
      refine List.nodup_append.mpr
        ⟨nodup, List.nodup_singleton key, fun entry member other same equal => ?_⟩
      rw [List.mem_singleton.mp same] at equal
      exact absent (equal ▸ member)
  | remove key present => exact nodup.erase key

variable (session board) in
/-- What a signal makes of a session and of the board when every list that is followed has been
created: the list is written and the entries change alike, or nothing is written. -/
inductive Effect : Session → Board → Prop
  | unchanged : Effect session board
  | gathered (phase : Phase) (early : session.phase.isEarly = true)
      (still : phase.isEarly = true) (exact : session.phase.IsExact → phase.IsExact) :
      Effect (session.goOn phase) board
  | abandoned (state : SessionState) (early : session.phase.isEarly = true) :
      Effect (session.ended none state) board
  | published (keys : KeySet) (merging : session.phase = .merging keys) :
      Effect (session.publish board keys).1 (session.publish board keys).2
  | edited (handle : Handle) (entries : List String) (edit : List String → List String)
      (write : ListWrite) (list : PublishedList)
      (following : session.phase = .following handle entries)
      (edits : Edits handle entries edit write)
      (found : board.lists[handle.name]? = some list) :
      Effect (session.goOn (.following handle (edit entries)))
        (handle.rewritten board edit write list)
  | left (handle : Handle) (entries : List String) (state : SessionState)
      (following : session.phase = .following handle entries) :
      Effect (session.ended (some handle) state) board
  | detached (handle : Handle) (entries : List String)
      (following : session.phase = .following handle entries) :
      Effect (session.ended none .closed) board

/-- A change that comes in is passed on to the list, has no effect, or ends the worker. -/
theorem Outcome.effect (outcome : session.Outcome board signal after written)
    (settled : ∀ handle entries, session.phase = .following handle entries →
      handle.pending = false) : session.Effect board after written := by
  cases outcome with
  | unchanged => exact .unchanged
  | gathered phase early still exact _ => exact .gathered phase early still exact
  | abandoned state early => exact .abandoned state early
  | published keys merging => exact .published keys merging
  | listed handle entries record following =>
      rcases session.listRecord_cases board (settled handle entries following) record with
        ⟨same, _⟩ | ⟨cause, _, refused⟩ | ⟨key, list, _, absent, found, listed⟩
      · rw [same]
        exact .unchanged
      · rw [refused]
        exact .left handle entries _ following
      · rw [listed]
        exact .edited handle entries _ _ list following (.add key absent) found
  | unlisted handle entries record following =>
      rcases session.unlistRecord_cases board (settled handle entries following) record with
        ⟨same, _⟩ | ⟨cause, _, refused⟩ | ⟨key, list, _, present, found, unlisted⟩
      · rw [same]
        exact .unchanged
      · rw [refused]
        exact .left handle entries _ following
      · rw [unlisted]
        exact .edited handle entries _ _ list following (.remove key present) found
  | left handle entries state following => exact .left handle entries state following
  | detached handle entries following => exact .detached handle entries following

/-- Nothing becomes of a session whose worker has ended. -/
theorem Outcome.of_stopped (outcome : session.Outcome board signal after written)
    {owned : Option Handle} (stopped : session.phase = .stopped owned) :
    after = session ∧ written = board := by
  cases outcome with
  | unchanged => exact ⟨rfl, rfl⟩
  | gathered phase early still exact onward =>
      rw [stopped] at early
      exact absurd early Bool.false_ne_true
  | abandoned state early =>
      rw [stopped] at early
      exact absurd early Bool.false_ne_true
  | published keys merging => exact nomatch stopped.symm.trans merging
  | listed handle entries record following => exact nomatch stopped.symm.trans following
  | unlisted handle entries record following => exact nomatch stopped.symm.trans following
  | left handle entries state following => exact nomatch stopped.symm.trans following
  | detached handle entries following => exact nomatch stopped.symm.trans following

/-- A worker that reads its changefeed does not go back to the rows. -/
theorem Outcome.readsFeed (outcome : session.Outcome board signal after written)
    (reads : session.phase.readsFeed = true) : after.phase.readsFeed = true := by
  cases outcome with
  | unchanged => exact reads
  | gathered phase early still exact onward => exact onward reads
  | abandoned state early => rfl
  | published keys merging =>
      rcases publish_turn board keys with ⟨owned, cause, same⟩ | ⟨owned, same⟩
      · rw [same]
        rfl
      · rw [same]
        rfl
  | listed handle entries record following =>
      exact (listRecord_turn board following record).readsFeed
  | unlisted handle entries record following =>
      exact (unlistRecord_turn board following record).readsFeed
  | left handle entries state following => rfl
  | detached handle entries following => rfl

end Consequences

end Session

end LiveSearch
