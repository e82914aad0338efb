import LiveSearch.Proofs.Service.Missing

/-! # Subscriptions after the deletion of a list

When the list of a name has been deleted from outside, its session reports this, and the provider
drops the entry of the name with all its subscribers. A subscription that the provider reads before
the report is counted on that entry and lost with it
(`LiveSearch.Provider.subscription_lost_with_entry`); one that finds no entry opens a session, which
publishes the list again. There are no other cases
(`LiveSearch.Provider.retains_resubscription_iff`).
-/

namespace LiveSearch

/-- A notice that does not end a subscription to a name leaves a subscriber if there is one. -/
theorem Notice.tally_pos {name : String} {notice : Notice} (lasting : notice ≠ ⟨name, false⟩)
    {count : Nat} (some : 0 < count) : 0 < notice.tally name count := by
  obtain ⟨other, subscribed⟩ := notice
  unfold tally
  by_cases same : other = name
  · rw [if_pos same]
    cases subscribed with
    | true => exact Nat.succ_pos count
    | false => exact absurd (congrArg (Notice.mk · false) same) lasting
  · rw [if_neg same]
    exact some

/-- Acts that do not end a subscription to a name leave a subscriber if there is one. -/
theorem Act.foldl_tally_pos {name : String} {acts : List Act}
    (lasting : ∀ act ∈ acts, act ≠ .unsubscribe name) {count : Nat} (some : 0 < count) :
    0 < acts.foldl (Act.tally name) count := by
  induction acts generalizing count with
  | nil => exact some
  | cons act rest ih =>
      obtain ⟨first, others⟩ := List.forall_mem_cons.mp lasting
      refine ih others ?_
      cases act with
      | subscribe other =>
          rw [Act.tally]
          split
          · exact Nat.succ_pos count
          · exact some
      | unsubscribe other =>
          have different : other ≠ name := fun same => first (congrArg Act.unsubscribe same)
          rw [Act.tally, if_neg different]
          exact some
      | _ => exact some

namespace Provider

/-- At some moment during the acts the provider opens a session for a name. -/
def Reopens (provider : Provider) (name : String) (acts : List Act) : Prop :=
  ∃ earlier later, acts = earlier ++ .provider :: later ∧ (provider.run earlier).OpensNext name

/-- However much of what waits the provider has read, the rest leaves a subscriber of a name if
there is one then. -/
def IsPledged (provider : Provider) (name : String) : Prop :=
  ∀ rest, rest <:+ provider.waiting → 0 < rest.foldl (Notice.tally name) 1

/-- A name has an entry whose session is not closed, and its list holds what its query selects. -/
def Retains (provider : Provider) (field name : String) (descriptor : Descriptor) : Prop :=
  (∃ entry running, provider.service.entries[name]? = some entry ∧
    provider.service.running[entry.session]? = some running ∧ running.session.closed = false) ∧
  provider.Publishes field name descriptor

variable {provider : Provider} {regex : Pattern.Regex} {field name : String}

theorem reopens_cons {act : Act} {rest : List Act} : provider.Reopens name (act :: rest) ↔
    act = .provider ∧ provider.OpensNext name ∨ (provider.perform act).Reopens name rest := by
  constructor
  · rintro ⟨earlier, later, split, opens⟩
    cases earlier with
    | nil => exact .inl ⟨(List.cons.inj split).1, opens⟩
    | cons first earlier =>
        obtain ⟨rfl, others⟩ := List.cons.inj split
        exact .inr ⟨earlier, later, others, opens⟩
  · rintro (⟨rfl, opens⟩ | ⟨earlier, later, rfl, opens⟩)
    · exact ⟨[], rest, rfl, opens⟩
    · exact ⟨act :: earlier, later, rfl, opens⟩

theorem reopens_append {first second : List Act} : provider.Reopens name (first ++ second) ↔
    provider.Reopens name first ∨ (provider.run first).Reopens name second := by
  induction first generalizing provider with
  | nil =>
      refine ⟨.inr, fun opens => opens.resolve_left ?_⟩
      rintro ⟨earlier, later, split, _⟩
      exact absurd split.symm (List.append_ne_nil_of_right_ne_nil earlier (List.cons_ne_nil _ _))
  | cons act rest ih => rw [List.cons_append, reopens_cons, reopens_cons, ih, or_assoc, run_cons]

namespace Misses

/-- A name goes without a list until the provider opens a session for it. -/
theorem run (misses : provider.Misses name) (sound : provider.IsSound regex field) {acts : List Act}
    (plain : ∀ act ∈ acts, act.IsPlain field) (spares : ∀ act ∈ acts, act.Spares name) :
    (provider.run acts).Misses name ∧ ¬ provider.Reopens name acts ∨
      ∃ earlier later, acts = earlier ++ .provider :: later ∧ (provider.run earlier).Misses name ∧
        (provider.run earlier).OpensNext name := by
  induction acts generalizing provider with
  | nil =>
      refine .inl ⟨misses, ?_⟩
      rintro ⟨earlier, later, split, _⟩
      exact absurd split.symm (List.append_ne_nil_of_right_ne_nil earlier (List.cons_ne_nil _ _))
  | cons act rest ih =>
      obtain ⟨plainFirst, plainRest⟩ := List.forall_mem_cons.mp plain
      obtain ⟨sparesFirst, sparesRest⟩ := List.forall_mem_cons.mp spares
      by_cases opens : act = .provider ∧ provider.OpensNext name
      · obtain ⟨rfl, opens⟩ := opens
        exact .inr ⟨[], rest, rfl, misses, opens⟩
      · have first := misses.perform sound plainFirst sparesFirst.1 fun same next =>
          opens ⟨same, next⟩
        rcases ih first (perform_isSound sound plainFirst) plainRest sparesRest with
          ⟨missed, closed⟩ | ⟨earlier, later, rfl, missed, next⟩
        · exact .inl ⟨missed, fun reopens => (reopens_cons.mp reopens).elim opens closed⟩
        · exact .inr ⟨act :: earlier, later, rfl, missed, next⟩

end Misses

/-- What has been read when a session is opened is the subscription that opens it. -/
theorem OpensNext.pledged (opens : provider.OpensNext name) :
    provider.pledged name = provider.waiting.tail.foldl (Notice.tally name) 1 := by
  obtain ⟨_, _, first, absent⟩ := opens
  unfold Provider.pledged Service.subscribers
  cases waits : provider.waiting with
  | nil =>
      rw [waits] at first
      exact nomatch first
  | cons notice rest =>
      rw [waits, List.head?_cons] at first
      rw [Option.some.inj first, absent, List.foldl_cons, List.tail_cons, Notice.tally, if_pos rfl,
        if_pos rfl]
      rfl

namespace IsPledged

/-- Reading leaves a pledge, and so does every act that does not end a subscription to the name. -/
theorem perform (pledged : provider.IsPledged name) (sound : provider.IsSound regex field)
    {act : Act} (lasting : act ≠ .unsubscribe name) : (provider.perform act).IsPledged name := by
  obtain ⟨kept, suffix, waits⟩ := waiting_perform sound act
  intro rest found
  rw [waits] at found
  have comes (notice : Notice) (new : notice ≠ ⟨name, false⟩)
      (last : rest <:+ kept ++ [notice]) : 0 < rest.foldl (Notice.tally name) 1 := by
    rcases List.suffix_concat_iff.mp last with rfl | ⟨former, rfl, earlier⟩
    · exact Nat.one_pos
    · rw [List.foldl_append]
      exact Notice.tally_pos new (pledged former (earlier.trans suffix))
  have nothing (same : act.notices regex = []) : 0 < rest.foldl (Notice.tally name) 1 := by
    rw [same, List.append_nil] at found
    exact pledged rest (found.trans suffix)
  cases act with
  | subscribe other =>
      by_cases hears : regex.isMatch other = true
      · simp only [Act.notices, hears, ↓reduceIte] at found
        exact comes _ (by simp) found
      · exact nothing (if_neg hears)
  | unsubscribe other =>
      by_cases hears : regex.isMatch other = true
      · simp only [Act.notices, hears, ↓reduceIte] at found
        exact comes _ (fun same => lasting (congrArg Act.unsubscribe (Notice.mk.inj same).1)) found
      · exact nothing (if_neg hears)
  | _ => exact nothing rfl

/-- Acts that do not end a subscription to the name leave a pledge. -/
theorem run (pledged : provider.IsPledged name) (sound : provider.IsSound regex field)
    {acts : List Act} (plain : ∀ act ∈ acts, act.IsPlain field)
    (lasting : ∀ act ∈ acts, act ≠ .unsubscribe name) : (provider.run acts).IsPledged name := by
  induction acts generalizing provider with
  | nil => exact pledged
  | cons act rest ih =>
      obtain ⟨plainFirst, plainRest⟩ := List.forall_mem_cons.mp plain
      obtain ⟨lastingFirst, lastingRest⟩ := List.forall_mem_cons.mp lasting
      exact ih (pledged.perform sound lastingFirst) (perform_isSound sound plainFirst) plainRest
        lastingRest

end IsPledged

/-- A subscription that has just been sent is a pledge. -/
theorem isPledged_of_subscribe (sound : provider.IsSound regex field)
    (hears : regex.isMatch name = true) : (provider.perform (.subscribe name)).IsPledged name := by
  have waits : (provider.perform (.subscribe name)).waiting =
      provider.waiting ++ [⟨name, true⟩] := by
    have hearing := (sound.hearing.notified ⟨name, true⟩).2
    rw [if_pos hears] at hearing
    exact hearing
  intro rest found
  rw [waits] at found
  rcases List.suffix_concat_iff.mp found with rfl | ⟨former, rfl, _⟩
  · exact Nat.one_pos
  · rw [List.foldl_append, List.foldl_cons, List.foldl_nil, Notice.tally, if_pos rfl, if_pos rfl]
    exact Nat.succ_pos _

/-- When nothing can go on, a name that is upheld and pledged to somebody has an entry, and its list
holds what its query selects. -/
private theorem Upholds.retains (upholds : provider.Upholds name)
    (sound : provider.IsSound regex field) (quiet : provider.IsQuiet) {descriptor : Descriptor}
    (parsed : Descriptor.ofName name = .ok descriptor) (somebody : 0 < provider.pledged name) :
    provider.Retains field name descriptor := by
  obtain ⟨_, _, unread⟩ := sound.drained quiet
  rw [Provider.pledged, unread, List.foldl_nil, Service.subscribers] at somebody
  cases entered : provider.service.entries[name]? with
  | none =>
      rw [entered] at somebody
      exact absurd somebody (Nat.lt_irrefl 0)
  | some entry =>
      obtain ⟨_, running, held, _, unclosed, _⟩ := sound.service.entered name entry entered
      exact ⟨⟨entry, running, entered, held, unclosed⟩,
        upholds.publishes sound quiet parsed entered⟩

/-- From the moment when the provider opens a session for a name, only the end of subscriptions can
take the list away. -/
private theorem Misses.retains_of_opensNext (misses : provider.Misses name)
    (opens : provider.OpensNext name) (sound : provider.IsSound regex field)
    (hears : regex.isMatch name = true) {descriptor : Descriptor}
    (parsed : Descriptor.ofName name = .ok descriptor) {acts : List Act}
    (plain : ∀ act ∈ acts, act.IsPlain field) (spares : ∀ act ∈ acts, act.Spares name)
    (quiet : (provider.run acts).IsQuiet)
    (somebody : 0 < acts.foldl (Act.tally name) (provider.pledged name)) :
    (provider.run acts).Retains field name descriptor := by
  obtain ⟨_, _, _, absent⟩ := opens
  have known (before after : List Act) (split : acts = before ++ .subscribe name :: after) :
      (provider.run before).service.HasTable name :=
    run_hasTable sound (fun act member => plain act (split ▸ List.mem_append_left _ member))
      misses.stocked
  obtain ⟨upholds, counted⟩ := (misses.upholds absent).run sound hears parsed plain spares known
  exact upholds.retains (run_isSound sound plain) quiet parsed (counted ▸ somebody)

/-- Somebody subscribes to a name without a list. When nothing can go on, the name has a list
exactly if the provider has opened a session for it. -/
private theorem Misses.retains_iff (misses : provider.Misses name)
    (sound : provider.IsSound regex field) (hears : regex.isMatch name = true)
    {descriptor : Descriptor} (parsed : Descriptor.ofName name = .ok descriptor)
    {between after : List Act}
    (plainBetween : ∀ act ∈ between, act.IsPlain field)
    (plainAfter : ∀ act ∈ after, act.IsPlain field)
    (sparesBetween : ∀ act ∈ between, act.Spares name)
    (sparesAfter : ∀ act ∈ after, act.Spares name)
    (lasting : ∀ act ∈ after, act ≠ .unsubscribe name)
    (quiet : (provider.run (between ++ .subscribe name :: after)).IsQuiet) :
    (provider.run (between ++ .subscribe name :: after)).Retains field name descriptor ↔
      provider.Reopens name (between ++ .subscribe name :: after) := by
  have plain : ∀ act ∈ between ++ .subscribe name :: after, act.IsPlain field :=
    List.forall_mem_append.mpr ⟨plainBetween, List.forall_mem_cons.mpr ⟨trivial, plainAfter⟩⟩
  have spares : ∀ act ∈ between ++ .subscribe name :: after, act.Spares name :=
    List.forall_mem_append.mpr
      ⟨sparesBetween, List.forall_mem_cons.mpr ⟨⟨trivial, nofun⟩, sparesAfter⟩⟩
  have soundBetween := run_isSound sound plainBetween
  have sent : ((provider.run between).perform (.subscribe name)).IsSound regex field :=
    perform_isSound soundBetween trivial
  refine ⟨fun retains => ?_, fun reopens => ?_⟩
  · rcases misses.run sound plain spares with ⟨missed, _⟩ | ⟨earlier, later, split, _, opens⟩
    · obtain ⟨_, list, listed, _⟩ := retains
      exact nomatch missed.misses.absent.symm.trans listed
    · exact ⟨earlier, later, split, opens⟩
  · rcases misses.run sound plainBetween sparesBetween with
      ⟨missed, closed⟩ | ⟨earlier, later, rfl, missed, opens⟩
    · have still : ((provider.run between).perform (.subscribe name)).Misses name :=
        missed.perform soundBetween trivial trivial nofun
      rcases still.run sent plainAfter sparesAfter with
        ⟨_, never⟩ | ⟨earlier, later, rfl, missedThen, opens⟩
      · rcases reopens_append.mp reopens with before | reopens
        · exact absurd before closed
        · rcases reopens_cons.mp reopens with ⟨same, _⟩ | late
          · exact nomatch same
          · exact absurd late never
      · -- The subscription that has been sent still waits, or has been counted on a new entry.
        obtain ⟨plainEarlier, plainLater⟩ := List.forall_mem_append.mp plainAfter
        obtain ⟨_, sparesLater⟩ := List.forall_mem_append.mp sparesAfter
        obtain ⟨lastingEarlier, lastingLater⟩ := List.forall_mem_append.mp lasting
        have pledged := (isPledged_of_subscribe soundBetween hears).run sent plainEarlier
          lastingEarlier _ (List.tail_suffix _)
        rw [run_append, run_cons, run_append] at quiet ⊢
        refine missedThen.retains_of_opensNext opens (run_isSound sent plainEarlier) hears parsed
          plainLater sparesLater quiet (Act.foldl_tally_pos lastingLater ?_)
        rw [opens.pledged]
        exact pledged
    · obtain ⟨plainEarlier, _⟩ := List.forall_mem_append.mp plainBetween
      rw [List.append_assoc] at quiet plain spares ⊢
      rw [run_append] at quiet ⊢
      refine missed.retains_of_opensNext opens (run_isSound sound plainEarlier) hears parsed
        (List.forall_mem_append.mp plain).2 (List.forall_mem_append.mp spares).2 quiet ?_
      rw [List.cons_append, List.foldl_cons, List.foldl_append, List.foldl_cons, Act.tally,
        if_pos rfl]
      exact Act.foldl_tally_pos lasting (Nat.succ_pos _)

/-- The list of a name is deleted from outside while nothing is made to fail, and keys are not minus
zero. Later somebody subscribes to the name and stays, and the list is not deleted again. When
nothing can go on, the name has an entry and a list that holds what the query selects exactly if the
provider, since the deletion, has once read a subscription to the name while it had no entry. -/
theorem retains_resubscription_iff {listPrefix : String} {capacity : Nat}
    (listening : (Provider.start listPrefix (Service.start field (Database.empty field)
      (Board.empty capacity)) none).listen = .ok provider)
    (compiled : Pattern.compile? (listenPattern listPrefix) = some regex)
    (hears : regex.isMatch name = true) {descriptor : Descriptor}
    (parsed : Descriptor.ofName name = .ok descriptor) (before between after : List Act)
    (plain : ∀ act ∈ before ++ (between ++ after), act.IsPlain field)
    (faultless : (provider.run before).service.IsFaultless)
    (deleted : ((provider.run before).service.board.deleteList name).2 = true)
    (spares : ∀ act ∈ between ++ after, act.Spares name)
    (lasting : ∀ act ∈ after, act ≠ .unsubscribe name)
    (quiet : (provider.run
      (before ++ .deleteList name :: (between ++ .subscribe name :: after))).IsQuiet) :
    (provider.run (before ++ .deleteList name :: (between ++ .subscribe name :: after))).Retains
        field name descriptor ↔
      (provider.run (before ++ [.deleteList name])).Reopens name
        (between ++ .subscribe name :: after) := by
  obtain ⟨_, same, sound, _⟩ := isSound_of_listen listening
  obtain rfl := Option.some.inj (compiled.symm.trans same)
  obtain ⟨plainBefore, plainLater⟩ := List.forall_mem_append.mp plain
  obtain ⟨plainBetween, plainAfter⟩ := List.forall_mem_append.mp plainLater
  obtain ⟨sparesBetween, sparesAfter⟩ := List.forall_mem_append.mp spares
  have soundBefore := run_isSound sound plainBefore
  have misses : ((provider.run before).perform (.deleteList name)).Misses name :=
    { faultless := perform_isFaultless soundBefore trivial trivial faultless
      stocked := perform_hasTable soundBefore trivial
        (Service.hasTable_of_deleteList soundBefore.service deleted)
      misses := Service.misses_of_deleteList soundBefore.service deleted }
  rw [run_append, run_cons] at quiet ⊢
  rw [run_append provider before [.deleteList name]]
  exact misses.retains_iff (perform_isSound soundBefore trivial) hears parsed plainBetween
    plainAfter sparesBetween sparesAfter lasting quiet

section Books

/-- The Spanish books are listed. -/
def publication : List Act :=
  [.request (.upsert "books" quixote), .subscribe spanishBooks, .provider, .session 1, .session 1,
    .session 1, .session 1, .session 1, .session 1, .session 1]

/-- The provider reads that a session is detached, and closes it. -/
def detachment : List Act := [.session 1, .provider, .provider]

/-- A new session lists the Spanish books. -/
def revival : List Act :=
  [.provider, .session 2, .session 2, .session 2, .session 2, .session 2, .session 2, .session 2]

theorem retains_resubscription_revival : ∃ provider descriptor, bookshop = .ok provider ∧
    Descriptor.ofName spanishBooks = .ok descriptor ∧
    (provider.run (publication ++ .deleteList spanishBooks ::
      (detachment ++ .subscribe spanishBooks :: revival))).IsQuiet ∧
    (provider.run (publication ++ .deleteList spanishBooks ::
      (detachment ++ .subscribe spanishBooks :: revival))).Retains "ds_id" spanishBooks
        descriptor := by
  obtain ⟨regex, compiled, heard⟩ := isMatch_spanishBooks
  obtain ⟨descriptor, parsed, _⟩ := ofName_spanishBooks
  obtain ⟨provider, listening, faultless, deleted, quiet, opens⟩ := exists_bookshop (fun provider =>
    (provider.run publication).service.IsFaultless ∧
      ((provider.run publication).service.board.deleteList spanishBooks).2 = true ∧
      (provider.run (publication ++ .deleteList spanishBooks ::
        (detachment ++ .subscribe spanishBooks :: revival))).IsQuiet ∧
      ((provider.run (publication ++ [.deleteList spanishBooks])).run
        (detachment ++ [.subscribe spanishBooks])).OpensNext spanishBooks)
    (by decide +kernel)
  have plain : ∀ act ∈ publication ++ (detachment ++ revival), act.IsPlain "ds_id" := by
    simp [publication, detachment, revival, Act.IsPlain, Request.IsPlain, hasPlainKey_quixote]
  have spares : ∀ act ∈ detachment ++ revival, act.Spares spanishBooks := by
    simp [detachment, revival, Act.Spares, Act.IsHarmless]
  have lasting : ∀ act ∈ revival, act ≠ .unsubscribe spanishBooks := by
    simp [revival]
  exact ⟨provider, descriptor, listening, parsed, quiet,
    (retains_resubscription_iff listening compiled heard parsed publication detachment revival plain
      faultless deleted spares lasting quiet).mpr ⟨_, revival.tail, rfl, opens⟩⟩

/-- A search for English books. -/
def englishBooks : String :=
  "search?\x7b\"table\":\"books\",\"query\":[[\"language\",\"eq\",\"English\"]]\x7d"

/-- The provider reads two subscriptions before the report that a session is detached. -/
def overtaking : List Act :=
  [.provider, .provider, .session 1, .provider, .provider, .session 2, .session 2, .session 2,
    .session 2, .session 2]

/-- Somebody subscribes to the Spanish books after their list has been deleted. The provider counts
this on the entry of the deleted list, which it then drops. -/
theorem subscription_lost_with_entry : ∃ provider regex descriptor, bookshop = .ok provider ∧
    Pattern.compile? (listenPattern "search") = some regex ∧ regex.isMatch spanishBooks = true ∧
    Descriptor.ofName spanishBooks = .ok descriptor ∧
    (provider.run (publication ++ [.subscribe englishBooks])).service.IsFaultless ∧
    ((provider.run (publication ++ [.subscribe englishBooks])).service.board.deleteList
      spanishBooks).2 = true ∧
    (∀ act ∈ overtaking, act.Spares spanishBooks ∧ act ≠ .unsubscribe spanishBooks) ∧
    (provider.run ((publication ++ [.subscribe englishBooks]) ++ .deleteList spanishBooks ::
      .subscribe spanishBooks :: overtaking)).IsQuiet ∧
    ¬ (provider.run ((publication ++ [.subscribe englishBooks]) ++ .deleteList spanishBooks ::
      .subscribe spanishBooks :: overtaking)).Retains "ds_id" spanishBooks descriptor := by
  obtain ⟨regex, compiled, heard⟩ := isMatch_spanishBooks
  obtain ⟨descriptor, parsed, _⟩ := ofName_spanishBooks
  obtain ⟨provider, listening, faultless, deleted, quiet, dropped⟩ :=
    exists_bookshop (fun provider =>
      (provider.run (publication ++ [.subscribe englishBooks])).service.IsFaultless ∧
        ((provider.run (publication ++ [.subscribe englishBooks])).service.board.deleteList
          spanishBooks).2 = true ∧
        (provider.run ((publication ++ [.subscribe englishBooks]) ++ .deleteList spanishBooks ::
          .subscribe spanishBooks :: overtaking)).IsQuiet ∧
        ((provider.run ((publication ++ [.subscribe englishBooks]) ++ .deleteList spanishBooks ::
          .subscribe spanishBooks :: overtaking)).service.entries[spanishBooks]?).isNone)
      (by decide +kernel)
  have spares : ∀ act ∈ overtaking, act.Spares spanishBooks ∧ act ≠ .unsubscribe spanishBooks := by
    simp [overtaking, Act.Spares, Act.IsHarmless]
  refine ⟨provider, regex, descriptor, listening, compiled, heard, parsed, faultless, deleted,
    spares, quiet, fun retains => ?_⟩
  obtain ⟨⟨entry, _, entered, _⟩, _⟩ := retains
  exact nomatch (Option.isNone_iff_eq_none.mp dropped).symm.trans entered

end Books

end Provider

end LiveSearch
