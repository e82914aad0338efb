import LiveSearch.Proofs.Service.Leaving
import LiveSearch.Shell

/-! # How a shell ends

The provider of a shell and the sessions run while the shell reads and while it waits, and others
may use its record store and its board; in what order is not known (`LiveSearch.Sitting.Next`). A
shell that lets everything run that can go on before it reads a line takes one of these orders
(`LiveSearch.Sitting.next_runLines`).

Through all of them the provider stays steady (`LiveSearch.Sitting.IsSound.run`). A shell whose
lines are all text ends when the provider has returned, and leaves nothing behind
(`LiveSearch.Sitting.hasClosed_iff`). On a line that is not text it ends at once, and what its
sessions have published stays.
-/

namespace LiveSearch

/-- What a shell is doing: it takes lines of input, it waits for the provider that it has asked to
stop, or it has ended. -/
inductive Sitting.Stage
  | reading (input : List (List UInt8))
  | leaving
  | ended (result : Except Failure Unit)

/-- A shell at work. -/
structure Sitting where
  shell : Shell
  stage : Sitting.Stage

namespace Shell

/-- The provider of a shell among other clients of its record store and its board. -/
def deployment (shell : Shell) : Deployment := ⟨shell.schedule.state, []⟩

/-- The shell when its provider is in a state, and tasks wait for their turn. -/
def withSchedule (shell : Shell) (state : BoundedProvider) (queue : List Task) : Shell :=
  { shell with schedule := ⟨state, queue⟩ }

/-- The shell when it has asked its provider to stop. -/
def askToStop (shell : Shell) : Shell :=
  shell.withSchedule (shell.deployment.after .shutdown).bounded shell.schedule.queue

/-- The shell when events have happened around it, one after another. -/
def undergo (shell : Shell) (events : List Deployment.Event) : Shell :=
  shell.withSchedule (events.foldl (fun state event => (Deployment.after ⟨state, []⟩ event).bounded)
    shell.schedule.state) []

/-- Nothing is left of the searches of a shell: the provider has returned, every session that was
ever opened is closed and its worker has ended, and no list exists in an incarnation in which a
session has followed it at an earlier moment. -/
structure HasClosed (shell earlier : Shell) : Prop where
  returned : shell.provider.result?.isSome = true
  closed : ∀ id, 0 < id → id < shell.service.nextSession →
    ∃ running, shell.service.running[id]? = some running ∧ running.session.closed = true ∧
      running.session.phase.isStopped = true
  gone : ∀ (id : Nat) (running : Running) (handle : Handle) (entries : List String),
    earlier.service.running[id]? = some running →
      running.session.phase = .following handle entries →
        ∀ (name : String) (list : PublishedList),
          shell.service.board.lists[name]? = some list → list.incarnation ≠ handle.incarnation

end Shell

namespace Sitting

/-- What can happen next. -/
inductive Next (sitting : Sitting) : Sitting → Prop
  /-- A task takes a step, or others do something to the store, the board or the provider. -/
  | meanwhile (event : Deployment.Event) (queue : List Task)
      (lasts : ∀ result, sitting.stage ≠ .ended result) :
      Next sitting { sitting with
        shell := sitting.shell.withSchedule (sitting.shell.deployment.after event).bounded queue }
  /-- The shell takes a line and goes on. -/
  | took (line : List UInt8) (rest : List (List UInt8)) (next : Shell) (lines : List String)
      (reading : sitting.stage = .reading (line :: rest))
      (taken : sitting.shell.takeLine line = .goOn next lines) :
      Next sitting ⟨next, .reading rest⟩
  /-- The shell meets a line that is not text. -/
  | broke (line : List UInt8) (rest : List (List UInt8)) (transcript : Transcript)
      (reading : sitting.stage = .reading (line :: rest)) (unreadable : lineText? line = none)
      (finished : sitting.shell.takeLine line = .finish transcript) :
      Next sitting ⟨transcript.shell, .ended transcript.result⟩
  /-- The shell asks its provider to stop at the end of the input. -/
  | exhausted (reading : sitting.stage = .reading []) :
      Next sitting ⟨sitting.shell.askToStop, .leaving⟩
  /-- The shell asks its provider to stop because of a line. -/
  | left (line : List UInt8) (rest : List (List UInt8)) (text : String) (transcript : Transcript)
      (reading : sitting.stage = .reading (line :: rest)) (readable : lineText? line = some text)
      (finished : sitting.shell.takeLine line = .finish transcript) :
      Next sitting ⟨sitting.shell.askToStop, .leaving⟩
  /-- The provider that the shell waits for has returned. -/
  | returned (result : Except Failure Unit) (leaving : sitting.stage = .leaving)
      (known : sitting.shell.schedule.state.result? = some result) :
      Next sitting { sitting with stage := .ended result }
  /-- The shell waits until its provider has returned, and nothing comes between. -/
  | awaited (leaving : sitting.stage = .leaving) :
      Next sitting ⟨sitting.shell.leave.shell, .ended sitting.shell.leave.result⟩

end Sitting

namespace Shell

variable {shell next : Shell} {lines : List String}

/-- Showing sessions changes their numbers only. -/
private theorem provider_showSessions (shell : Shell) (summaries : List Service.Summary) :
    (shell.showSessions summaries).1.provider = shell.provider := by
  change (summaries.foldl (fun shell summary => shell.note summary.session) shell).provider = _
  induction summaries generalizing shell with
  | nil => rfl
  | cons summary rest ih => exact ih (shell.note summary.session)

/-- A record that is written reaches the store through its operation. -/
private theorem provider_write {verb table body : String}
    {operation : Database → String → Json → Database × Except ServiceError String}
    (written : shell.write verb table body operation = .ok (next, lines)) :
    ∃ record, next.provider = { shell.provider with
      service := shell.service.withDatabase (operation shell.service.database table record).1 } := by
  unfold write at written
  cases parsed : parseRecord body with
  | error failure =>
      rw [parsed] at written
      cases written
  | ok record =>
      rw [parsed] at written
      dsimp only [Bind.bind, Except.bind] at written
      cases answered : operation shell.service.database table record with
      | mk database answer =>
          rw [answered] at written
          cases answer with
          | error failure => cases written
          | ok id =>
              obtain ⟨rfl, _⟩ := Prod.mk.inj (Except.ok.inj written)
              exact ⟨record, by rw [answered]; rfl⟩

/-- What a command does to the provider is one event, or nothing. -/
theorem obey_cases {command : Command} (obeyed : shell.obey command = .ok (next, lines)) :
    next.provider = shell.provider ∨
      ∃ event, next.provider = (shell.deployment.after event).provider := by
  cases command with
  | subscribe name =>
      obtain ⟨rfl, _⟩ := Prod.mk.inj (Except.ok.inj obeyed)
      exact .inr ⟨.act (.subscribe name), rfl⟩
  | unsubscribe name =>
      obtain ⟨rfl, _⟩ := Prod.mk.inj (Except.ok.inj obeyed)
      exact .inr ⟨.act (.unsubscribe name), rfl⟩
  | insert table body =>
      obtain ⟨record, same⟩ := provider_write obeyed
      exact .inr ⟨.act (.request (.insert table record)), same⟩
  | update table body =>
      obtain ⟨record, same⟩ := provider_write obeyed
      exact .inr ⟨.act (.request (.update table record)), same⟩
  | delete table id =>
      obtain ⟨rfl, _⟩ := Prod.mk.inj (Except.ok.inj obeyed)
      exact .inr ⟨.act (.request (.delete table id)), rfl⟩
  | dropList name =>
      obtain ⟨rfl, _⟩ := Prod.mk.inj (Except.ok.inj obeyed)
      exact .inr ⟨.act (.deleteList name), rfl⟩
  | sessions =>
      obtain ⟨rfl, _⟩ := Prod.mk.inj (Except.ok.inj obeyed)
      exact .inl (shell.provider_showSessions _)
  | lists | help | quit =>
      obtain ⟨rfl, _⟩ := Prod.mk.inj (Except.ok.inj obeyed)
      exact .inl rfl

section Lines

variable (shell)

/-- On a line of text a shell goes on with the provider as it is or after one event, or it
leaves. -/
theorem takeText_cases (text : String) :
    (∃ next lines, shell.takeText text = .goOn next lines ∧ (next.provider = shell.provider ∨
      ∃ event, next.provider = (shell.deployment.after event).provider)) ∨
    ∃ lines, shell.takeText text = .finish (printed lines shell.leave) := by
  unfold takeText
  split
  · exact .inr ⟨["provider stopped"], rfl⟩
  · split
    · exact .inl ⟨shell, _, rfl, .inl rfl⟩
    · exact .inl ⟨shell, _, rfl, .inl rfl⟩
    · exact .inr ⟨[], rfl⟩
    · split
      · rename_i next lines obeyed
        exact .inl ⟨next, lines, rfl, obey_cases obeyed⟩
      · exact .inl ⟨shell, _, rfl, .inl rfl⟩

variable {line : List UInt8}

theorem takeLine_of_text {text : String} (readable : lineText? line = some text) :
    shell.takeLine line = shell.takeText text := by
  rw [takeLine, readable]

/-- On a line that is not text a shell ends as it is. -/
theorem takeLine_of_unreadable (unreadable : lineText? line = none) :
    ∃ message, shell.takeLine line = .finish ⟨shell, [], .error (.unreadable message)⟩ := by
  rw [takeLine, unreadable]
  exact ⟨_, rfl⟩

end Lines

end Shell

namespace TaskSystem

variable {σ : Type} (system : TaskSystem σ)

/-- A task takes a step. -/
def Steps (state next : σ) : Prop := ∃ task, system.step? state task = some next

theorem steps_runTask (task : Task) (fuel : Nat) (state : σ) :
    Relation.ReflTransGen system.Steps state (system.runTask task fuel state) := by
  induction fuel generalizing state with
  | zero => exact .refl
  | succ fuel ih =>
      rw [runTask]
      split
      · exact .refl
      · rename_i next step
        exact .head ⟨task, step⟩ (ih next)

theorem steps_runQueue (fuel : Nat) (schedule : Schedule σ) :
    Relation.ReflTransGen system.Steps schedule.state (system.runQueue fuel schedule).state := by
  induction fuel generalizing schedule with
  | zero => exact .refl
  | succ fuel ih =>
      rw [runQueue]
      split
      · exact .refl
      · rename_i task rest _
        exact (system.steps_runTask task _ _).trans (ih (system.wake ⟨_, rest⟩))

/-- Letting everything run is a sequence of steps. -/
theorem steps_settle (schedule : Schedule σ) :
    Relation.ReflTransGen system.Steps schedule.state (system.settle schedule).state :=
  system.steps_runQueue _ (system.wake schedule)

end TaskSystem

namespace Deployment

/-- A step of a task is an event. -/
theorem after_of_steps {bounded next : BoundedProvider}
    (steps : BoundedProvider.taskSystem.Steps bounded next) (given : List Nat) :
    ∃ event, (after ⟨bounded, given⟩ event).bounded = next := by
  obtain ⟨task, step⟩ := steps
  cases task with
  | provider =>
      have moved : bounded.step? = some next := step
      exact ⟨.act .provider, by simp only [after, moved, Option.getD_some]⟩
  | session id =>
      obtain ⟨provider, stepped, rfl⟩ := Option.map_eq_some_iff.mp step
      obtain ⟨service, told, rfl⟩ := Option.map_eq_some_iff.mp stepped
      refine ⟨.act (.session id), ?_⟩
      have same : (⟨bounded, given⟩ : Deployment).service.step? id = some service := told
      simp only [after, same]
      rfl

end Deployment

namespace Sitting

variable {sitting next : Sitting}

section Running

/-- A shell lets its tasks run. -/
private theorem next_steps {shell : Shell} {stage : Stage}
    (lasts : ∀ result, stage ≠ .ended result) {state : BoundedProvider}
    (steps : Relation.ReflTransGen BoundedProvider.taskSystem.Steps shell.schedule.state state)
    (queue : List Task) :
    Relation.ReflTransGen Next ⟨shell, stage⟩ ⟨shell.withSchedule state queue, stage⟩ := by
  induction steps generalizing queue with
  | refl => exact .single (.meanwhile (.around shell.service.board) queue lasts)
  | tail _ step ih =>
      obtain ⟨event, rfl⟩ := Deployment.after_of_steps step []
      exact (ih []).tail (.meanwhile event queue lasts)

theorem next_undergo (shell : Shell) (input : List (List UInt8))
    (events : List Deployment.Event) :
    Relation.ReflTransGen Next ⟨shell, .reading input⟩ ⟨shell.undergo events, .reading input⟩ := by
  have lasts (result : Except Failure Unit) : Stage.reading input ≠ .ended result := nofun
  induction events generalizing shell with
  | nil => exact .single (.meanwhile (.around shell.service.board) [] lasts)
  | cons event rest ih => exact .head (.meanwhile event [] lasts) (ih _)

private theorem next_settle (shell : Shell) (input : List (List UInt8)) :
    Relation.ReflTransGen Next ⟨shell, .reading input⟩ ⟨shell.settle, .reading input⟩ := by
  have lasts (result : Except Failure Unit) : Stage.reading input ≠ .ended result := nofun
  exact next_steps lasts (BoundedProvider.taskSystem.steps_settle shell.schedule) _

/-- A shell leaves as one that has asked its provider to stop. -/
private theorem leave_askToStop (shell : Shell) : shell.askToStop.leave = shell.leave := rfl

/-- A shell that has asked its provider to stop waits until it has returned. -/
private theorem next_leave (shell : Shell) :
    Next ⟨shell.askToStop, .leaving⟩ ⟨shell.leave.shell, .ended shell.leave.result⟩ := by
  have awaited : Next ⟨shell.askToStop, .leaving⟩ _ := .awaited rfl
  rw [leave_askToStop] at awaited
  exact awaited

/-- A shell that takes lines when nothing can go on is a shell at work. -/
theorem next_runLines (shell : Shell) (input : List (List UInt8)) :
    Relation.ReflTransGen Next ⟨shell, .reading input⟩
      ⟨(shell.runLines input).shell, .ended (shell.runLines input).result⟩ := by
  induction input generalizing shell with
  | nil =>
      rw [Shell.runLines]
      exact ((next_settle shell []).tail (.exhausted rfl)).tail (next_leave shell.settle)
  | cons line rest ih =>
      refine (next_settle shell (line :: rest)).trans ?_
      rw [Shell.runLines]
      cases readable : lineText? line with
      | none =>
          obtain ⟨message, finished⟩ := shell.settle.takeLine_of_unreadable readable
          rw [finished]
          exact .single (.broke line rest _ rfl readable finished)
      | some text =>
          have taken := shell.settle.takeLine_of_text readable
          rcases shell.settle.takeText_cases text with ⟨next, lines, goesOn, _⟩ | ⟨lines, leaves⟩
          · rw [goesOn] at taken
            rw [taken]
            exact .head (.took line rest next lines rfl taken) (ih next)
          · rw [leaves] at taken
            rw [taken]
            exact .head (.left line rest text _ rfl readable taken)
              (.single (next_leave shell.settle))

end Running

/-- The provider after what happens next is as it was, or one event has changed it, or it has been
waited for. -/
theorem Next.provider_cases (happens : sitting.Next next) :
    next.shell.provider = sitting.shell.provider ∨
      (∃ event, next.shell.provider = (sitting.shell.deployment.after event).provider) ∨
      next.shell.provider = sitting.shell.provider.requestShutdown.awaitReturn := by
  cases happens with
  | meanwhile event queue lasts => exact .inr (.inl ⟨event, rfl⟩)
  | took line rest next lines reading taken =>
      cases readable : lineText? line with
      | none =>
          obtain ⟨_, finished⟩ := sitting.shell.takeLine_of_unreadable readable
          cases taken.symm.trans finished
      | some text =>
          rw [sitting.shell.takeLine_of_text readable] at taken
          rcases sitting.shell.takeText_cases text with ⟨other, _, same, onward⟩ | ⟨_, leaves⟩
          · obtain ⟨rfl, _⟩ := Shell.Turn.goOn.inj (taken.symm.trans same)
            exact onward.imp_right .inl
          · cases taken.symm.trans leaves
  | broke line rest transcript reading unreadable finished =>
      obtain ⟨_, same⟩ := sitting.shell.takeLine_of_unreadable unreadable
      obtain rfl := Shell.Turn.finish.inj (finished.symm.trans same)
      exact .inl rfl
  | exhausted reading => exact .inr (.inl ⟨.shutdown, rfl⟩)
  | left line rest text transcript reading readable finished => exact .inr (.inl ⟨.shutdown, rfl⟩)
  | returned result leaving known => exact .inl rfl
  | awaited leaving => exact .inr (.inr rfl)

/-- A steady provider stays steady, whatever happens to the shell. -/
theorem Next.isSteady (happens : sitting.Next next) (steady : sitting.shell.provider.IsSteady) :
    next.shell.provider.IsSteady := by
  have deployed : sitting.shell.deployment.provider.IsSteady := steady
  rcases happens.provider_cases with same | ⟨event, same⟩ | same
  · rw [same]
    exact steady
  · rw [same]
    exact Deployment.isSteady_after deployed event
  · rw [same]
    exact steady.requestShutdown.awaitReturn.1

/-- What happens to a shell is a sequence of small changes of its service. -/
theorem Next.evolves (happens : sitting.Next next) (steady : sitting.shell.provider.IsSteady) :
    Relation.ReflTransGen Service.Evolves sitting.shell.service next.shell.service := by
  rw [Shell.service, Shell.service]
  rcases happens.provider_cases with same | ⟨event, same⟩ | same
  · rw [same]
  · rw [same]
    exact sitting.shell.deployment.evolves_after event
  · rw [same]
    exact Provider.evolves_awaitReturn steady.requestShutdown.orderly

/-- The provider of a shell at work is steady, the lines that are left are lines of the input, and
when the shell has ended its provider has returned, unless there is a line that is not text. -/
structure IsSound (input : List (List UInt8)) (sitting : Sitting) : Prop where
  steady : sitting.shell.provider.IsSteady
  left : ∀ rest, sitting.stage = .reading rest → ∀ line ∈ rest, line ∈ input
  ended : ∀ result, sitting.stage = .ended result →
    sitting.shell.provider.result?.isSome = true ∨
      (∃ message, result = .error (.unreadable message)) ∧ ∃ line ∈ input, lineText? line = none

section Runs

variable {input : List (List UInt8)}

/-- Whatever happens to a shell, it stays sound. -/
theorem IsSound.step (sound : sitting.IsSound input) (happens : sitting.Next next) :
    next.IsSound input := by
  refine ⟨happens.isSteady sound.steady, fun rest reading => ?_, fun result ended => ?_⟩
  · cases happens with
    | meanwhile => exact sound.left rest reading
    | took line rest next lines before =>
        obtain rfl := Stage.reading.inj reading
        exact fun other member => sound.left _ before other (List.mem_cons_of_mem line member)
    | _ => exact nomatch reading
  · cases happens with
    | meanwhile event queue lasts => exact absurd ended (lasts result)
    | broke line rest transcript reading unreadable finished =>
        obtain rfl := Stage.ended.inj ended
        obtain ⟨_, same⟩ := sitting.shell.takeLine_of_unreadable unreadable
        obtain rfl := Shell.Turn.finish.inj (finished.symm.trans same)
        exact .inr ⟨⟨_, rfl⟩, line, sound.left _ reading line List.mem_cons_self, unreadable⟩
    | returned result leaving known =>
        obtain ⟨_, returned, _⟩ := Option.map_eq_some_iff.mp known
        exact .inl (Option.isSome_of_eq_some returned)
    | awaited leaving => exact .inl sound.steady.requestShutdown.awaitReturn.2
    | _ => exact nomatch ended

theorem IsSound.run (sound : sitting.IsSound input)
    (run : Relation.ReflTransGen Next sitting next) : next.IsSound input := by
  induction run with
  | refl => exact sound
  | tail _ happens ih => exact ih.step happens

theorem evolves_run (sound : sitting.IsSound input)
    (run : Relation.ReflTransGen Next sitting next) :
    Relation.ReflTransGen Service.Evolves sitting.shell.service next.shell.service := by
  induction run with
  | refl => exact .refl
  | tail earlier happens ih => exact ih.trans (happens.evolves (sound.run earlier).steady)

/-- A shell whose provider has returned has closed everything. -/
theorem IsSound.hasClosed (sound : sitting.IsSound input)
    (run : Relation.ReflTransGen Next sitting next)
    (returned : next.shell.provider.result?.isSome = true) :
    next.shell.HasClosed sitting.shell := by
  have steady := (sound.run run).steady
  have closed (id : Nat) (running : Running)
      (found : next.shell.service.running[id]? = some running) : running.session.closed = true :=
    steady.closed returned found
  have hosts := steady.hosted.hosts
  refine ⟨returned, fun id positive known => ?_, fun id running handle entries found following => ?_⟩
  · obtain ⟨running, found⟩ :=
      Option.isSome_iff_exists.mp ((steady.hosted.numbered id).mpr ⟨positive, known⟩)
    have stopped := hosts.closed id running found (closed id running found)
    exact ⟨running, found, closed id running found, congrArg Phase.isStopped stopped⟩
  · have hosted := sound.steady.hosted
    have accounted := Service.isAccounted_run (evolves_run sound run) hosted
      (Service.isAccounted_of_following hosted.hosts found following)
    exact fun name list listed => accounted.gone hosts closed listed

/-- A shell that has just been started is sound. -/
theorem isSound_of_open {settings : Settings} {database : Database} {board : Board} {json : Bool}
    {shell : Shell} (sound : board.IsSound)
    (opened : Shell.open? settings database board json = .ok shell) :
    IsSound input ⟨shell, .reading input⟩ := by
  let provider : Provider := Provider.start settings.listPrefix
    (Service.start settings.primaryKey database board) none
  have steady : provider.IsSteady :=
    ⟨⟨Registry.start_isSound _ _ _, fun _ => nofun⟩, fun _ => rfl, Service.isHosted_start sound _ _⟩
  refine ⟨?_, fun rest reading => ?_, fun _ => nofun⟩
  · change provider.listen.map _ = _ at opened
    rcases provider.listen_cases with ⟨failure, refused⟩ | ⟨other, address, listening⟩
    · rw [refused] at opened
      exact nomatch opened
    · rw [listening] at opened
      obtain rfl := Except.ok.inj opened
      exact steady.moves (.listening other address rfl)
  · obtain rfl := Stage.reading.inj reading
    exact fun _ member => member

end Runs

/-- **When a shell closes what it has opened.** However the shell, its provider, the sessions and
others take turns, when the shell has ended nothing is left of its searches, or it has ended because
of a line that is not text while its provider has not returned. If all lines are text nothing is
left. A shell that lets everything run before each line ends in one of these ways. -/
theorem hasClosed_iff {settings : Settings} {database : Database} {board : Board} {json : Bool}
    {shell : Shell} (sound : board.IsSound)
    (opened : Shell.open? settings database board json = .ok shell) (input : List UInt8) :
    (∀ (earlier : Sitting) (final : Shell) (result : Except Failure Unit),
      Relation.ReflTransGen Next ⟨shell, .reading (splitLines input)⟩ earlier →
      Relation.ReflTransGen Next earlier ⟨final, .ended result⟩ →
        (final.HasClosed earlier.shell ↔
          ((∃ message, result = .error (.unreadable message)) →
            final.provider.result?.isSome = true)) ∧
        ((∀ line ∈ splitLines input, (lineText? line).isSome = true) →
          final.HasClosed earlier.shell)) ∧
    Relation.ReflTransGen Next ⟨shell, .reading (splitLines input)⟩
      ⟨(shell.run input).shell, .ended (shell.run input).result⟩ := by
  refine ⟨fun earlier final result before after => ?_, next_runLines shell (splitLines input)⟩
  have here := (isSound_of_open sound opened).run before
  have closes := here.hasClosed after
  have ends := (here.run after).ended result rfl
  refine ⟨⟨fun closed _ => closed.returned, fun returns => closes ?_⟩, fun texts => closes ?_⟩
  · exact ends.elim id fun broken => returns broken.1
  · refine ends.resolve_right fun ⟨_, line, member, unreadable⟩ => ?_
    exact absurd (texts line member) (by rw [unreadable]; exact Bool.false_ne_true)

section Books

open Provider (spanishBooks quixote)

/-- A shell over an empty store. -/
def bookshop : Shell :=
  ((Shell.open? .default (.empty "ds_id") (.empty 9) false).toOption).get (by decide +kernel)

theorem open?_bookshop :
    Shell.open? .default (.empty "ds_id") (.empty 9) false = .ok bookshop := by
  have known : (Shell.open? .default (.empty "ds_id") (.empty 9) false).toOption = some bookshop :=
    (Option.some_get _).symm
  generalize Shell.open? .default (.empty "ds_id") (.empty 9) false = opened at known
  cases opened with
  | error failure => exact nomatch known
  | ok shell => exact congrArg Except.ok (Option.some.inj known)

/-- A book comes, and somebody asks for it. -/
def arrivals : List Deployment.Event :=
  [.act (.request (.upsert "books" quixote)), .act (.subscribe spanishBooks)]

/-- A shell that leaves when a list has been published takes the list away. -/
theorem hasClosed_arrivals :
    (handleOf? (bookshop.undergo arrivals).settle.service.running 1).isSome = true ∧
      (bookshop.undergo arrivals).settle.service.board.names = [spanishBooks] ∧
      (bookshop.undergo arrivals).settle.leave.shell.HasClosed
        (bookshop.undergo arrivals).settle := by
  obtain ⟨published, listed⟩ :
      (handleOf? (bookshop.undergo arrivals).settle.service.running 1).isSome = true ∧
      (bookshop.undergo arrivals).settle.service.board.names = [spanishBooks] := by decide +kernel
  have before := (next_undergo bookshop (splitLines []) arrivals).trans (next_settle _ _)
  generalize (bookshop.undergo arrivals).settle = shell at published listed before ⊢
  have after : Relation.ReflTransGen Next ⟨shell, .reading []⟩
      ⟨shell.leave.shell, .ended shell.leave.result⟩ :=
    .head (.exhausted rfl) (.single (next_leave shell))
  have closes := (hasClosed_iff (Board.isSound_empty 9) open?_bookshop []).1 _ _ _ before after
  exact ⟨published, listed, closes.2 (List.forall_mem_nil _)⟩

/-- A book is there and somebody asks for it; then there is a line that is not text. -/
def brokenInput : List UInt8 :=
  ("insert books " ++ quixote.text ++ "\nsub " ++ spanishBooks ++ "\n").toUTF8.toList ++ [0xff, 0x0a]

/-- A shell that meets a line that is not text ends with a failure while its provider runs: a
session is not closed and its list exists. -/
theorem not_hasClosed_brokenInput : (bookshop.run brokenInput).result.isOk = false ∧
    ¬ (bookshop.run brokenInput).shell.HasClosed bookshop ∧
    ((bookshop.run brokenInput).shell.service.running[1]?).any (!·.session.closed) = true ∧
    (bookshop.run brokenInput).shell.service.board.names = [spanishBooks] := by
  obtain ⟨going, rest⟩ :
      (bookshop.run brokenInput).shell.provider.result?.isSome = false ∧
      (bookshop.run brokenInput).result.isOk = false ∧
      ((bookshop.run brokenInput).shell.service.running[1]?).any (!·.session.closed) = true ∧
      (bookshop.run brokenInput).shell.service.board.names = [spanishBooks] := by
    decide +kernel
  refine ⟨rest.1, fun closed => ?_, rest.2⟩
  exact absurd (going.symm.trans closed.returned) Bool.false_ne_true

end Books

end Sitting

end LiveSearch
