import LiveSearch.Board.Basic
import LiveSearch.Proofs.Mailroom

/-! # What writes do to a board

Recording a write only concerns observers and the journal. A write through a handle either fails and
leaves everything as it was, or changes the list that exists, or creates the list of a pending
handle (`LiveSearch.Handle.write_cases`). On a sound board no list exists in an incarnation that has
been withdrawn, and incarnations that are handed out are new (`LiveSearch.Board.IsSound`), so the
first write through a new handle succeeds unless all writes fail.
-/

namespace LiveSearch

namespace Board

variable (board : Board)

section Recording

variable (write : ListWrite)

/-- Recording a write only concerns observers and the journal. -/
theorem record_eq : ∃ observers writeRoom journal,
    board.record write = { board with observers, writeRoom, journal } := by
  unfold record keepInJournal
  split
  · exact ⟨_, _, _, rfl⟩
  · split <;> exact ⟨_, _, _, rfl⟩

@[simp] theorem lists_record : (board.record write).lists = board.lists := by
  obtain ⟨_, _, _, equal⟩ := board.record_eq write
  rw [equal]

@[simp] theorem withdrawn_record : (board.record write).withdrawn = board.withdrawn := by
  obtain ⟨_, _, _, equal⟩ := board.record_eq write
  rw [equal]

@[simp] theorem nextIncarnation_record :
    (board.record write).nextIncarnation = board.nextIncarnation := by
  obtain ⟨_, _, _, equal⟩ := board.record_eq write
  rw [equal]

@[simp] theorem failure_record : (board.record write).failure = board.failure := by
  obtain ⟨_, _, _, equal⟩ := board.record_eq write
  rw [equal]

@[simp] theorem listeners_record : (board.record write).listeners = board.listeners := by
  obtain ⟨_, _, _, equal⟩ := board.record_eq write
  rw [equal]

@[simp] theorem noticeRoom_record : (board.record write).noticeRoom = board.noticeRoom := by
  obtain ⟨_, _, _, equal⟩ := board.record_eq write
  rw [equal]

end Recording

section Deleting

variable (name : String)

theorem lists_unlist (other : String) : (board.unlist name).lists[other]? =
    if name = other then none else board.lists[other]? := by
  simp only [unlist, lookup_erase]

@[simp] theorem lists_signal (incarnation : Nat) :
    (board.signal name incarnation).lists = board.lists := lists_record _ _

theorem lists_deleteList (other : String) :
    (board.deleteList name).1.lists[other]? =
      if name = other then none else board.lists[other]? := by
  unfold deleteList
  cases found : board.lists[name]? with
  | none =>
      by_cases same : name = other
      · subst same
        simp only [found, ↓reduceIte]
      · simp only [same, ↓reduceIte]
  | some list => simp only [lists_signal, lists_unlist]

/-- Deleting a list withdraws the incarnation in which it exists, and no other. -/
theorem withdrawn_deleteList (incarnation : Nat) :
    (board.deleteList name).1.withdrawn.contains incarnation = true ↔
      board.withdrawn.contains incarnation = true ∨
        ∃ list : PublishedList, board.lists[name]? = some list ∧
          list.incarnation = incarnation := by
  unfold deleteList
  cases found : board.lists[name]? with
  | none => simp only [reduceCtorEq, false_and, exists_false, or_false]
  | some list =>
      simp only [signal, unlist, withdrawn_record, Std.TreeSet.contains_insert, Bool.or_eq_true,
        beq_iff_eq, Std.LawfulEqCmp.compare_eq_iff_eq, Option.some.injEq, exists_eq_left']
      exact or_comm

@[simp] theorem nextIncarnation_deleteList :
    (board.deleteList name).1.nextIncarnation = board.nextIncarnation := by
  unfold deleteList
  split
  · rfl
  · exact nextIncarnation_record _ _

@[simp] theorem failure_deleteList : (board.deleteList name).1.failure = board.failure := by
  unfold deleteList
  split
  · rfl
  · exact failure_record _ _

@[simp] theorem listeners_deleteList : (board.deleteList name).1.listeners = board.listeners := by
  unfold deleteList
  split
  · rfl
  · exact listeners_record _ _

@[simp] theorem noticeRoom_deleteList :
    (board.deleteList name).1.noticeRoom = board.noticeRoom := by
  unfold deleteList
  split
  · rfl
  · exact noticeRoom_record _ _

end Deleting

/-- No list exists in a withdrawn incarnation, no two lists exist in the same one, and no
incarnation to come is in use. -/
structure IsSound : Prop where
  listed : ∀ (name : String) (list : PublishedList), board.lists[name]? = some list →
    list.incarnation < board.nextIncarnation ∧ board.withdrawn.contains list.incarnation = false
  withdrawn : ∀ incarnation, board.withdrawn.contains incarnation = true →
    incarnation < board.nextIncarnation
  apart : ∀ (name other : String) (list another : PublishedList),
    board.lists[name]? = some list → board.lists[other]? = some another →
    list.incarnation = another.incarnation → name = other

/-- Between two boards at most the list of one name has been written: lists of other names stay as
they are, a list in a known incarnation was there before, and nothing is withdrawn. -/
structure WritesOnly (name : String) (before after : Board) : Prop where
  lists : ∀ other, name ≠ other → after.lists[other]? = before.lists[other]?
  incarnations : ∀ (other : String) (list : PublishedList), after.lists[other]? = some list →
    list.incarnation < before.nextIncarnation → ∃ earlier : PublishedList,
      before.lists[other]? = some earlier ∧ earlier.incarnation = list.incarnation
  withdrawn : after.withdrawn = before.withdrawn
  nextIncarnation : before.nextIncarnation ≤ after.nextIncarnation
  failure : after.failure = before.failure
  listeners : after.listeners = before.listeners
  noticeRoom : after.noticeRoom = before.noticeRoom

namespace WritesOnly

variable {name : String} {first second : Board}

theorem refl (name : String) (board : Board) : board.WritesOnly name board :=
  ⟨fun _ _ => rfl, fun _ list found _ => ⟨list, found, rfl⟩, rfl, Nat.le_refl _, rfl, rfl, rfl⟩

theorem isWithdrawn (written : WritesOnly name first second) (handle : Handle) :
    second.isWithdrawn handle = first.isWithdrawn handle := by
  rw [Board.isWithdrawn, written.withdrawn, Board.isWithdrawn]

end WritesOnly

/-- Between two boards only deletions have taken place: a list that is gone has been withdrawn. -/
structure Withdraws (before after : Board) : Prop where
  kept : ∀ (name : String) (list : PublishedList), before.lists[name]? = some list →
    after.lists[name]? = some list ∨ after.withdrawn.contains list.incarnation = true
  lists : ∀ (name : String) (list : PublishedList), after.lists[name]? = some list →
    before.lists[name]? = some list
  withdrawn : ∀ incarnation, before.withdrawn.contains incarnation = true →
    after.withdrawn.contains incarnation = true
  nextIncarnation : after.nextIncarnation = before.nextIncarnation

/-- Nothing has been deleted. -/
theorem Withdraws.of_same {before after : Board} (lists : after.lists = before.lists)
    (withdrawn : after.withdrawn = before.withdrawn)
    (nextIncarnation : after.nextIncarnation = before.nextIncarnation) :
    before.Withdraws after where
  kept _ _ found := .inl (lists ▸ found)
  lists _ _ found := lists ▸ found
  withdrawn _ gone := withdrawn ▸ gone
  nextIncarnation := nextIncarnation

/-- The deletion of a list withdraws its incarnation. -/
theorem deleteList_withdraws (name : String) : board.Withdraws (board.deleteList name).1 where
  kept other list found := by
    by_cases same : name = other
    · subst same
      exact .inr ((board.withdrawn_deleteList name list.incarnation).mpr (.inr ⟨list, found, rfl⟩))
    · rw [lists_deleteList, if_neg same]
      exact .inl found
  lists other list found := by
    rw [lists_deleteList] at found
    split at found
    · exact nomatch found
    · exact found
  withdrawn incarnation gone := (board.withdrawn_deleteList name incarnation).mpr (.inl gone)
  nextIncarnation := board.nextIncarnation_deleteList name

/-- The board when one more incarnation has been handed out. -/
def reserve : Board := { board with nextIncarnation := board.nextIncarnation + 1 }

/-- A handle for a list that exists has the incarnation of the list. -/
theorem handleFor_of_found {name : String} {list : PublishedList}
    (found : board.lists[name]? = some list) :
    board.handleFor name = (⟨name, list.incarnation, false⟩, board) := by
  simp only [handleFor, found]

/-- A handle for a list that does not exist reserves the next incarnation. -/
theorem handleFor_of_absent {name : String} (absent : board.lists[name]? = none) :
    board.handleFor name = (⟨name, board.nextIncarnation, true⟩, board.reserve) := by
  simp only [handleFor, absent]
  rfl

/-- Asking for a handle changes no list. -/
theorem handleFor_writesOnly (name : String) :
    board.WritesOnly name (board.handleFor name).2 := by
  unfold handleFor
  split
  · exact .refl name board
  · exact ⟨fun _ _ => rfl, fun _ list found _ => ⟨list, found, rfl⟩, rfl, Nat.le_succ _, rfl, rfl,
      rfl⟩

@[simp] theorem lists_handleFor (name : String) :
    (board.handleFor name).2.lists = board.lists := by
  unfold handleFor
  split <;> rfl

@[simp] theorem name_handleFor (name : String) : (board.handleFor name).1.name = name := by
  unfold handleFor
  split <;> rfl

end Board

namespace Handle

variable (handle : Handle) (board : Board)

/-- The board behind a write to the list that exists. -/
def rewritten (edit : List String → List String) (write : ListWrite) (list : PublishedList) :
    Board :=
  { board with
    lists := board.lists.insert handle.name
      { list with entries := edit list.entries } }.record write

/-- The board behind the write that creates the list of a pending handle. -/
def created (edit : List String → List String) (write : ListWrite) : Board :=
  { board with
    lists := board.lists.insert handle.name ⟨edit [], handle.incarnation⟩ }.record write

/-- Writes through the handle fail: all writes do, or its incarnation is gone, or its list is. -/
def IsBarred : Prop :=
  board.failure.isSome = true ∨ board.isWithdrawn handle = true ∨
    board.lists[handle.name]? = none ∧ handle.pending = false

/-- A change of the entries is made to the list that exists, or it creates the list of a pending
handle, or there is neither. -/
theorem commit_cases (edit : List String → List String) (write : ListWrite) :
    (∃ list, board.lists[handle.name]? = some list ∧
      handle.commit board edit write = (handle, handle.rewritten board edit write list, .ok ())) ∨
    (board.lists[handle.name]? = none ∧ handle.pending = true ∧
      handle.commit board edit write =
        ({ handle with pending := false }, handle.created board edit write, .ok ())) ∨
    (board.lists[handle.name]? = none ∧ handle.pending = false ∧
      handle.commit board edit write = (handle, board, .error handle.gone)) := by
  cases found : board.lists[handle.name]? with
  | some list => exact .inl ⟨list, rfl, by simp only [Handle.commit, found, rewritten]⟩
  | none =>
      cases pending : handle.pending with
      | true =>
          refine .inr (.inl ⟨rfl, rfl, ?_⟩)
          simp only [Handle.commit, found, pending, ↓reduceIte, created]
      | false =>
          refine .inr (.inr ⟨rfl, rfl, ?_⟩)
          simp only [Handle.commit, found, pending, Bool.false_eq_true, ↓reduceIte]

theorem name_commit (edit : List String → List String) (write : ListWrite) :
    (handle.commit board edit write).1.name = handle.name := by
  rcases handle.commit_cases board edit write with ⟨_, _, same⟩ | ⟨_, _, same⟩ | ⟨_, _, same⟩
  · rw [same]
  · rw [same]
  · rw [same]

/-- A write fails and leaves everything as it was, or it changes the list that exists, or it creates
the list for which the handle has reserved an incarnation. -/
theorem write_cases (edit : List String → List String) (write : ListWrite) :
    (∃ cause, handle.IsBarred board ∧
      handle.write board edit write = (handle, board, .error cause)) ∨
    (∃ list, board.lists[handle.name]? = some list ∧
      handle.write board edit write = (handle, handle.rewritten board edit write list, .ok ())) ∨
    (board.lists[handle.name]? = none ∧ handle.pending = true ∧
      handle.write board edit write =
        ({ handle with pending := false }, handle.created board edit write, .ok ())) := by
  cases failure : board.failure with
  | some cause =>
      refine .inl ⟨cause, .inl ?_, by simp only [Handle.write, failure]⟩
      rw [failure, Option.isSome_some]
  | none =>
      by_cases gone : board.isWithdrawn handle = true
      · refine .inl ⟨handle.gone, .inr (.inl gone), ?_⟩
        simp only [Handle.write, failure, gone, ↓reduceIte]
      · have committed : handle.write board edit write = handle.commit board edit write := by
          simp only [Handle.write, failure, gone, Bool.false_eq_true, ↓reduceIte]
        rw [committed]
        rcases handle.commit_cases board edit write with
          changed | created | ⟨absent, settled, refused⟩
        · exact .inr (.inl changed)
        · exact .inr (.inr created)
        · exact .inl ⟨handle.gone, .inr (.inr ⟨absent, settled⟩), refused⟩

theorem lists_rewritten (edit : List String → List String) (write : ListWrite)
    (list : PublishedList) (other : String) :
    (handle.rewritten board edit write list).lists[other]? =
      if handle.name = other then some { list with entries := edit list.entries }
      else board.lists[other]? := by
  simp only [rewritten, Board.lists_record, lookup_insert]

theorem lists_created (edit : List String → List String) (write : ListWrite) (other : String) :
    (handle.created board edit write).lists[other]? =
      if handle.name = other then some ⟨edit [], handle.incarnation⟩ else board.lists[other]? := by
  simp only [created, Board.lists_record, lookup_insert]

variable {handle board}

theorem rewritten_writesOnly (edit : List String → List String) (write : ListWrite)
    {list : PublishedList} (found : board.lists[handle.name]? = some list) :
    board.WritesOnly handle.name (handle.rewritten board edit write list) where
  lists other different := by rw [lists_rewritten, if_neg different]
  incarnations other after listed _ := by
    rw [lists_rewritten] at listed
    by_cases same : handle.name = other
    · rw [if_pos same] at listed
      rw [← same, ← Option.some.inj listed]
      exact ⟨list, found, rfl⟩
    · rw [if_neg same] at listed
      exact ⟨after, listed, rfl⟩
  withdrawn := Board.withdrawn_record _ write
  nextIncarnation := by simp only [rewritten, Board.nextIncarnation_record, Nat.le_refl]
  failure := Board.failure_record _ write
  listeners := Board.listeners_record _ write
  noticeRoom := Board.noticeRoom_record _ write

/-- The first write through a new handle. -/
theorem created_writesOnly (edit : List String → List String) (write : ListWrite)
    (fresh : board.nextIncarnation ≤ handle.incarnation) :
    board.WritesOnly handle.name (handle.created board.reserve edit write) where
  lists other different := by
    rw [lists_created, if_neg different]
    rfl
  incarnations other after listed known := by
    rw [lists_created] at listed
    by_cases same : handle.name = other
    · rw [if_pos same] at listed
      rw [← Option.some.inj listed] at known
      exact absurd known (Nat.not_lt.mpr fresh)
    · rw [if_neg same] at listed
      exact ⟨after, listed, rfl⟩
  withdrawn := Board.withdrawn_record _ write
  nextIncarnation := by
    unfold created
    rw [Board.nextIncarnation_record]
    exact Nat.le_succ _
  failure := Board.failure_record _ write
  listeners := Board.listeners_record _ write
  noticeRoom := Board.noticeRoom_record _ write

/-- Changing the entries of a list leaves a board sound. -/
theorem rewritten_isSound (sound : board.IsSound) (edit : List String → List String)
    (write : ListWrite) {list : PublishedList} (found : board.lists[handle.name]? = some list) :
    (handle.rewritten board edit write list).IsSound := by
  have former (name : String) (after : PublishedList)
      (listed : (handle.rewritten board edit write list).lists[name]? = some after) :
      ∃ before, board.lists[name]? = some before ∧ before.incarnation = after.incarnation := by
    rw [lists_rewritten] at listed
    by_cases same : handle.name = name
    · rw [if_pos same] at listed
      rw [← same, ← Option.some.inj listed]
      exact ⟨list, found, rfl⟩
    · rw [if_neg same] at listed
      exact ⟨after, listed, rfl⟩
  have next : (handle.rewritten board edit write list).nextIncarnation = board.nextIncarnation :=
    Board.nextIncarnation_record _ _
  have gone : (handle.rewritten board edit write list).withdrawn = board.withdrawn :=
    Board.withdrawn_record _ _
  refine ⟨fun name after listed => ?_, fun incarnation => ?_,
    fun name other after another listed further same => ?_⟩
  · obtain ⟨before, found, incarnation⟩ := former name after listed
    rw [next, gone, ← incarnation]
    exact sound.listed name before found
  · rw [next, gone]
    exact sound.withdrawn incarnation
  · obtain ⟨before, found, incarnation⟩ := former name after listed
    obtain ⟨earlier, known, otherIncarnation⟩ := former other another further
    exact sound.apart name other before earlier found known
      (incarnation.trans (same.trans otherIncarnation.symm))

/-- Creating a list in an incarnation that has been handed out, stands and is not in use leaves a
board sound. -/
theorem created_isSound (sound : board.IsSound) (edit : List String → List String)
    (write : ListWrite) (reserved : handle.incarnation < board.nextIncarnation)
    (standing : board.isWithdrawn handle = false)
    (unused : ∀ (name : String) (list : PublishedList), board.lists[name]? = some list →
      list.incarnation ≠ handle.incarnation) :
    (handle.created board edit write).IsSound := by
  have former (name : String) (after : PublishedList)
      (listed : (handle.created board edit write).lists[name]? = some after) :
      handle.name = name ∧ after.incarnation = handle.incarnation ∨
        board.lists[name]? = some after := by
    rw [lists_created] at listed
    by_cases same : handle.name = name
    · rw [if_pos same] at listed
      rw [← Option.some.inj listed]
      exact .inl ⟨same, rfl⟩
    · rw [if_neg same] at listed
      exact .inr listed
  have next : (handle.created board edit write).nextIncarnation = board.nextIncarnation :=
    Board.nextIncarnation_record _ _
  have gone : (handle.created board edit write).withdrawn = board.withdrawn :=
    Board.withdrawn_record _ _
  refine ⟨fun name after listed => ?_, fun incarnation => ?_,
    fun name other after another listed further same => ?_⟩
  · rw [next, gone]
    rcases former name after listed with ⟨_, incarnation⟩ | found
    · rw [incarnation]
      exact ⟨reserved, standing⟩
    · exact sound.listed name after found
  · rw [next, gone]
    exact sound.withdrawn incarnation
  · rcases former name after listed with ⟨named, incarnation⟩ | found
    · rcases former other another further with ⟨otherNamed, _⟩ | known
      · exact named.symm.trans otherNamed
      · exact absurd (same.symm.trans incarnation) (unused other another known)
    · rcases former other another further with ⟨_, incarnation⟩ | known
      · exact absurd (same.trans incarnation) (unused name after found)
      · exact sound.apart name other after another found known same

end Handle

namespace Board

variable {board : Board}

variable (board) in
/-- The first write through a new handle fails, or it changes the list that exists, or it creates
the list. -/
theorem write_new_cases (name : String) (edit : List String → List String) (write : ListWrite) :
    (∃ cause, (board.handleFor name).1.IsBarred (board.handleFor name).2 ∧
      (board.handleFor name).1.write (board.handleFor name).2 edit write =
        ((board.handleFor name).1, (board.handleFor name).2, .error cause)) ∨
    (∃ list : PublishedList, board.lists[name]? = some list ∧
      (board.handleFor name).1.write (board.handleFor name).2 edit write =
        (⟨name, list.incarnation, false⟩,
          Handle.rewritten ⟨name, list.incarnation, false⟩ board edit write list, .ok ())) ∨
    (board.lists[name]? = none ∧
      (board.handleFor name).1.write (board.handleFor name).2 edit write =
        (⟨name, board.nextIncarnation, false⟩,
          Handle.created ⟨name, board.nextIncarnation, true⟩ board.reserve edit write,
          .ok ())) := by
  rcases (board.handleFor name).1.write_cases (board.handleFor name).2 edit write with
    refused | ⟨list, found, written⟩ | ⟨absent, _, written⟩
  · exact .inl refused
  · rw [lists_handleFor, name_handleFor] at found
    rw [written, handleFor_of_found board found]
    exact .inr (.inl ⟨list, found, rfl⟩)
  · rw [lists_handleFor, name_handleFor] at absent
    rw [written, handleFor_of_absent board absent]
    exact .inr (.inr ⟨absent, rfl⟩)

theorem isSound_empty (capacity : Nat) : (Board.empty capacity).IsSound where
  listed _ _ found := nomatch (Std.TreeMap.getElem?_emptyc.symm.trans found)
  withdrawn _ gone := nomatch (Std.TreeSet.contains_emptyc.symm.trans gone)
  apart _ _ _ _ found := nomatch (Std.TreeMap.getElem?_emptyc.symm.trans found)

/-- An incarnation that has not been handed out stands. -/
theorem IsSound.notWithdrawn (sound : board.IsSound) {incarnation : Nat}
    (fresh : board.nextIncarnation ≤ incarnation) :
    board.withdrawn.contains incarnation = false := by
  cases gone : board.withdrawn.contains incarnation with
  | false => rfl
  | true => exact absurd (sound.withdrawn incarnation gone) (Nat.not_lt.mpr fresh)

theorem IsSound.reserve (sound : board.IsSound) : board.reserve.IsSound where
  listed name list found :=
    ⟨Nat.lt_succ_of_lt (sound.listed name list found).1, (sound.listed name list found).2⟩
  withdrawn incarnation gone := Nat.lt_succ_of_lt (sound.withdrawn incarnation gone)
  apart := sound.apart

theorem IsSound.handleFor (sound : board.IsSound) (name : String) :
    (board.handleFor name).2.IsSound := by
  unfold Board.handleFor
  split
  · exact sound
  · exact sound.reserve

theorem IsSound.deleteList (sound : board.IsSound) (name : String) :
    (board.deleteList name).1.IsSound := by
  have former (other : String) (list : PublishedList)
      (listed : (board.deleteList name).1.lists[other]? = some list) :
      name ≠ other ∧ board.lists[other]? = some list := by
    rw [lists_deleteList] at listed
    by_cases same : name = other
    · rw [if_pos same] at listed
      exact nomatch listed
    · rw [if_neg same] at listed
      exact ⟨same, listed⟩
  refine ⟨fun other list listed => ?_, fun incarnation gone => ?_,
    fun first second list another listed further same => ?_⟩
  · obtain ⟨different, found⟩ := former other list listed
    obtain ⟨known, standing⟩ := sound.listed other list found
    rw [nextIncarnation_deleteList]
    refine ⟨known, Bool.eq_false_iff.mpr fun gone => ?_⟩
    rcases (board.withdrawn_deleteList name list.incarnation).mp gone with
      earlier | ⟨deleted, held, same⟩
    · exact absurd (standing.symm.trans earlier) Bool.false_ne_true
    · exact different (sound.apart name other deleted list held found same)
  · rw [nextIncarnation_deleteList]
    rcases (board.withdrawn_deleteList name incarnation).mp gone with earlier | ⟨list, found, same⟩
    · exact sound.withdrawn incarnation earlier
    · rw [← same]
      exact (sound.listed name list found).1
  · exact sound.apart first second list another (former first list listed).2
      (former second another further).2 same

/-- Writing a list through a new handle leaves a board sound and writes no other list. -/
theorem IsSound.write_new (sound : board.IsSound) (name : String)
    (edit : List String → List String) (write : ListWrite) :
    ((board.handleFor name).1.write (board.handleFor name).2 edit write).2.1.IsSound ∧
      board.WritesOnly name
        ((board.handleFor name).1.write (board.handleFor name).2 edit write).2.1 := by
  rcases board.write_new_cases name edit write with
    ⟨cause, _, refused⟩ | ⟨list, found, changed⟩ | ⟨absent, created⟩
  · rw [refused]
    exact ⟨sound.handleFor name, board.handleFor_writesOnly name⟩
  · let handle : Handle := ⟨name, list.incarnation, false⟩
    rw [changed]
    have writes : board.WritesOnly handle.name (handle.rewritten board edit write list) :=
      Handle.rewritten_writesOnly edit write found
    exact ⟨Handle.rewritten_isSound sound edit write found, writes⟩
  · let handle : Handle := ⟨name, board.nextIncarnation, true⟩
    rw [created]
    have writes : board.WritesOnly handle.name (handle.created board.reserve edit write) :=
      Handle.created_writesOnly edit write (Nat.le_refl _)
    refine ⟨Handle.created_isSound sound.reserve edit write (Nat.lt_succ_self _) ?_ ?_, writes⟩
    · exact sound.notWithdrawn (Nat.le_refl _)
    · intro other list found
      exact Nat.ne_of_lt (sound.listed other list found).1

end Board

end LiveSearch
