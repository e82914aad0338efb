import LiveSearch.Proofs.Service.Sessions

/-! # Lists in custody

Of all sessions that were ever opened, at most one of a name is not closed, and every list is that
of such a session, unless others write it (`LiveSearch.Custody`). This remains so whatever the
sessions and the registry do; when all sessions are closed, none of them has left a list behind
(`LiveSearch.Custody.abandoned`).
-/

namespace LiveSearch

/-- Each session tends its list. No two sessions that are not closed have the same name, no session
has a name that others write, and every list of another name is that of a session that is not
closed. -/
structure Custody (foreign : String → Prop) (sessions : Std.TreeMap Nat Running) (board : Board) :
    Prop where
  sound : board.IsSound
  tended : ∀ (id : Nat) (running : Running), sessions[id]? = some running →
    running.session.Tends board
  alone : ∀ (id other : Nat) (left right : Running), sessions[id]? = some left →
    sessions[other]? = some right → left.session.closed = false →
      right.session.closed = false → left.session.name = right.session.name → id = other
  apart : ∀ (id : Nat) (running : Running), sessions[id]? = some running →
    ¬ foreign running.session.name
  owned : ∀ (name : String) (list : PublishedList), board.lists[name]? = some list →
    foreign name ∨ ∃ (id : Nat) (running : Running), sessions[id]? = some running ∧
      running.session.name = name ∧ running.session.closed = false

/-- A session that is told something has not been closed. -/
theorem Running.Next.unclosed {running behind : Running} {board : Board}
    {database between : Database} {signal : Signal}
    (next : running.Next board database behind between signal)
    (tends : running.session.Tends board) : running.session.closed = false := by
  cases closed : running.session.closed with
  | false => rfl
  | true =>
      have stopped := tends.closed closed
      exact absurd (next.going.symm.trans (congrArg Phase.isStopped stopped)) Bool.false_ne_true

namespace Custody

variable {foreign : String → Prop} {sessions : Std.TreeMap Nat Running} {board written : Board}
  {id : Nat}

theorem of_empty (sound : board.IsSound) (unlisted : ∀ name : String, board.lists[name]? = none) :
    Custody foreign ∅ board where
  sound := sound
  tended _ _ found := nomatch Std.TreeMap.getElem?_emptyc.symm.trans found
  alone _ _ _ _ found := nomatch Std.TreeMap.getElem?_emptyc.symm.trans found
  apart _ _ found := nomatch Std.TreeMap.getElem?_emptyc.symm.trans found
  owned name _ found := nomatch (unlisted name).symm.trans found

variable (custody : Custody foreign sessions board)

include custody

/-- When all sessions are closed no list of theirs exists. -/
theorem abandoned (closed : ∀ (id : Nat) (running : Running), sessions[id]? = some running →
      running.session.closed = true) {running : Running} (found : sessions[id]? = some running) :
    board.lists[running.session.name]? = none := by
  cases listed : board.lists[running.session.name]? with
  | none => rfl
  | some list =>
      rcases custody.owned running.session.name list listed with
        others | ⟨other, owner, held, _, unclosed⟩
      · exact absurd others (custody.apart id running found)
      · exact absurd (unclosed.symm.trans (closed other owner held)) Bool.false_ne_true

/-- A session of the same name takes the place of another one. -/
theorem replace {before after : Running} (found : sessions[id]? = some before)
    (sound : written.IsSound) (own : after.session.Tends written)
    (others : ∀ other running, id ≠ other → sessions[other]? = some running →
      running.session.Tends written)
    (named : after.session.name = before.session.name)
    (closed : after.session.closed = false → before.session.closed = false)
    (lists : ∀ (name : String) (list : PublishedList), written.lists[name]? = some list →
      name = before.session.name ∧ after.session.closed = false ∨
        (name = before.session.name → before.session.closed = true) ∧
          ∃ earlier, board.lists[name]? = some earlier) :
    Custody foreign (sessions.insert id after) written := by
  refine ⟨sound, fun other running present => ?_,
    fun first second left right one two openLeft openRight same => ?_,
    fun other running present => ?_, fun name list present => ?_⟩
  · rcases lookup_insert_cases present with ⟨_, rfl⟩ | ⟨different, earlier⟩
    · exact own
    · exact others other running different earlier
  · rcases lookup_insert_cases one with ⟨rfl, rfl⟩ | ⟨_, earlier⟩
    · rcases lookup_insert_cases two with ⟨rfl, rfl⟩ | ⟨_, further⟩
      · rfl
      · exact custody.alone id second before right found further (closed openLeft) openRight
          (named.symm.trans same)
    · rcases lookup_insert_cases two with ⟨rfl, rfl⟩ | ⟨_, further⟩
      · exact custody.alone first id left before earlier found openLeft (closed openRight)
          (same.trans named)
      · exact custody.alone first second left right earlier further openLeft openRight same
  · rcases lookup_insert_cases present with ⟨rfl, rfl⟩ | ⟨_, earlier⟩
    · rw [named]
      exact custody.apart id before found
    · exact custody.apart other running earlier
  · rcases lists name list present with ⟨same, still⟩ | ⟨shut, earlier, listed⟩
    · refine .inr ⟨id, after, ?_, named.trans same.symm, still⟩
      rw [lookup_insert, if_pos rfl]
    · refine (custody.owned name earlier listed).imp_right ?_
      rintro ⟨other, running, held, called, still⟩
      refine ⟨other, running, ?_, called, still⟩
      rw [lookup_insert, if_neg fun same => ?_, held]
      obtain rfl := Option.some.inj (found.symm.trans (same ▸ held))
      exact absurd (still.symm.trans (shut called.symm)) Bool.false_ne_true

/-- A session is told something. -/
theorem told {running behind : Running} {database between : Database} {signal : Signal}
    (found : sessions[id]? = some running)
    (next : running.Next board database behind between signal) :
    Custody foreign (sessions.insert id (behind.tell board between signal).1)
      (running.session.receive board signal).2 := by
  have tends := custody.tended id running found
  have unclosed := next.unclosed tends
  have outcome := running.session.receive_outcome board signal
  have writes := outcome.writesOnly tends.fits
  obtain ⟨name, _, _, closed⟩ := outcome.keeps
  have own := next.tends custody.sound tends
  rw [← next.session_tell] at name closed own
  refine custody.replace found (outcome.isSound custody.sound tends.fits) own
    (fun other another different held => ?_) name
    (fun _ => unclosed) (fun named list present => ?_)
  · refine (custody.tended other another held).frame writes fun openOther same => ?_
    exact different (custody.alone id other running another found held unclosed openOther same)
  · by_cases same : running.session.name = named
    · exact .inl ⟨same.symm, closed.trans unclosed⟩
    · refine .inr ⟨fun equal => absurd equal.symm same, list, ?_⟩
      rw [← writes.lists named same]
      exact present

/-- A session is told to end. -/
theorem cancel {running : Running} (found : sessions[id]? = some running) :
    Custody foreign (sessions.insert id { running with session := running.session.cancel })
      board := by
  refine custody.replace found custody.sound (custody.tended id running found).cancel
    (fun other another _ present => custody.tended other another present) rfl
    (fun unclosed => unclosed) fun name list present => ?_
  cases closed : running.session.closed with
  | true => exact .inr ⟨fun _ => rfl, list, present⟩
  | false =>
      by_cases same : name = running.session.name
      · exact .inl ⟨same, closed⟩
      · exact .inr ⟨fun equal => absurd equal same, list, present⟩

/-- A session whose worker has ended is closed. -/
theorem close {running : Running} (found : sessions[id]? = some running)
    (stopped : running.session.phase.isStopped = true) :
    Custody foreign
      (sessions.insert id { running with session := (running.session.finishClosing board).1 })
      (running.session.finishClosing board).2 := by
  have tends := custody.tended id running found
  refine custody.replace found (Session.finishClosing_isSound custody.sound tends.fits)
    (running.session.tends_finishClosing board _) (fun other another _ present => ?_) rfl
    (fun still => absurd still.symm Bool.false_ne_true) (fun name list present => .inr ?_)
  · exact (custody.tended other another present).withdraw
      (Session.finishClosing_withdraws tends.fits)
  · obtain ⟨earlier, shut⟩ := tends.lists_finishClosing custody.sound stopped present
    exact ⟨shut, list, earlier⟩

/-- A session is opened for a name that no session has. -/
theorem insert {running : Running} {name primaryKey : String} (absent : sessions[id]? = none)
    (new : running.session = Session.start name primaryKey)
    (free : ∀ (other : Nat) (another : Running), sessions[other]? = some another →
      another.session.closed = false → another.session.name ≠ name) (own : ¬ foreign name) :
    Custody foreign (sessions.insert id running) board := by
  have named : running.session.name = name := congrArg Session.name new
  have unlisted : board.lists[name]? = none := by
    cases listed : board.lists[name]? with
    | none => rfl
    | some list =>
        rcases custody.owned name list listed with others | ⟨other, owner, held, called, unclosed⟩
        · exact absurd others own
        · exact absurd called (free other owner held unclosed)
  refine ⟨custody.sound, fun other another present => ?_,
    fun first second left right one two openLeft openRight same => ?_,
    fun other another present => ?_, fun other list present => ?_⟩
  · rcases lookup_insert_cases present with ⟨_, rfl⟩ | ⟨_, held⟩
    · rw [new]
      exact ⟨.of_none trivial rfl, fun _ => .of_absent unlisted,
        fun closed => absurd closed Bool.false_ne_true⟩
    · exact custody.tended other another held
  · rcases lookup_insert_cases one with ⟨rfl, rfl⟩ | ⟨_, held⟩
    · rcases lookup_insert_cases two with ⟨rfl, rfl⟩ | ⟨_, further⟩
      · rfl
      · exact absurd (same.symm.trans named) (free second right further openRight)
    · rcases lookup_insert_cases two with ⟨rfl, rfl⟩ | ⟨_, further⟩
      · exact absurd (same.trans named) (free first left held openLeft)
      · exact custody.alone first second left right held further openLeft openRight same
  · rcases lookup_insert_cases present with ⟨_, rfl⟩ | ⟨_, held⟩
    · rw [named]
      exact own
    · exact custody.apart other another held
  · refine (custody.owned other list present).imp_right ?_
    rintro ⟨owner, another, held, rest⟩
    refine ⟨owner, another, ?_, rest⟩
    rw [lookup_insert, if_neg, held]
    rintro rfl
    exact nomatch absent.symm.trans held

/-- Lists are deleted, or nothing happens to the lists. -/
theorem withdraw (sound : written.IsSound) (withdraws : board.Withdraws written) :
    Custody foreign sessions written where
  sound := sound
  tended id running found := (custody.tended id running found).withdraw withdraws
  alone := custody.alone
  apart := custody.apart
  owned name list found := custody.owned name list (withdraws.lists name list found)

/-- Others write a list that is theirs. -/
theorem write {name : String} (sound : written.IsSound) (writes : board.WritesOnly name written)
    (theirs : foreign name) : Custody foreign sessions written where
  sound := sound
  tended id running found := (custody.tended id running found).frame writes fun _ same =>
    custody.apart id running found (same ▸ theirs)
  alone := custody.alone
  apart := custody.apart
  owned other list found := by
    by_cases same : name = other
    · exact .inl (same ▸ theirs)
    · rw [writes.lists other same] at found
      exact custody.owned other list found

end Custody

end LiveSearch
