import Collate.Proofs.Queue.Conduct

namespace Collate

instance {interface : Interface} : LawfulMonad (Program interface) :=
  LawfulMonad.mk' (Program interface)
    (fun program => Program.bind_pure program)
    (fun _ _ => rfl)
    (fun program second third => Program.bind_assoc program second third)

namespace Simulation

def World.after (world : World) (passed : Nat) : World :=
  { world with now := world.now + passed }

theorem World.after_after (world : World) (passed later : Nat) :
    (world.after passed).after later = world.after (passed + later) := by
  simp [after, Nat.add_assoc]

/-- Whether an activity that nobody disturbs comes to its end with a goal
reached, however much time passes before its steps and after them. Wherever it
waits, it goes on sooner or later. -/
def Reaches {α : Type} (goal : α → World → Prop) : Activity α → World → Prop
  | .done value, world => ∀ passed, goal value (world.after passed)
  | .ask (.act change) next, world =>
      ∀ passed,
        Reaches goal (next (world.after passed)) (change (world.after passed))
  | .ask (.sleep wake) next, world =>
      ∀ passed, wake ≤ (world.after passed).now →
        Reaches goal (next ()) (world.after passed)
  | .ask (.await isReady deadline giveUp) next, world =>
      (∀ passed, isReady (world.after passed) = true →
        Reaches goal (next true) (world.after passed)) ∧
      (∀ passed, isReady (world.after passed) = false →
        (deadline.any fun time => time ≤ (world.after passed).now) = true →
          Reaches goal (next false) (giveUp (world.after passed))) ∧
      ∀ passed, ∃ more, isReady (world.after (passed + more)) = true ∨
        (deadline.any fun time => time ≤ (world.after (passed + more)).now) =
          true
  | .ask (.protect _) next, world =>
      ∀ passed, Reaches goal (next ()) (world.after passed)
  | .ask .unprotect next, world =>
      ∀ passed, Reaches goal (next ()) (world.after passed)

namespace Reaches

variable {α β : Type} {goal : α → World → Prop} {aim : β → World → Prop}
  {world : World} {channel : Channel} {queue : Queue}

theorem after {activity : Activity α} (reaches : Reaches goal activity world)
    (passed : Nat) : Reaches goal activity (world.after passed) := by
  cases activity with
  | done value =>
      intro later
      rw [World.after_after]
      exact reaches _
  | ask step next =>
      cases step with
      | await isReady deadline giveUp =>
          obtain ⟨ready, late, goesOn⟩ := reaches
          refine ⟨fun later => ?_, fun later => ?_, fun later => ?_⟩
          · rw [World.after_after]
            exact ready _
          · rw [World.after_after]
            exact late _
          · obtain ⟨more, going⟩ := goesOn (passed + later)
            refine ⟨more, ?_⟩
            rw [World.after_after, ← Nat.add_assoc]
            exact going
      | _ =>
          intro later
          rw [World.after_after]
          exact reaches _

theorem bind_of_stays {activity : Activity α} {next : α → Activity β}
    (first : Reaches goal activity world)
    (second : ∀ value later, (∀ passed, goal value (World.after later passed)) →
      Reaches aim (next value) later) :
    Reaches aim (activity.bind next) world := by
  induction activity generalizing world with
  | done value => exact second value world first
  | ask step rest induction =>
      cases step with
      | sleep wake => exact fun passed awake => induction _ (first passed awake)
      | await isReady deadline giveUp =>
          obtain ⟨ready, late, goesOn⟩ := first
          exact ⟨fun passed isNow => induction _ (ready passed isNow),
            fun passed notNow isLate => induction _ (late passed notNow isLate),
            goesOn⟩
      | _ => exact fun passed => induction _ (first passed)

theorem bind {activity : Activity α} {next : α → Activity β}
    (first : Reaches goal activity world)
    (second :
      ∀ value later, goal value later → Reaches aim (next value) later) :
    Reaches aim (activity.bind next) world :=
  first.bind_of_stays fun value later stays => second value later (stays 0)

theorem mono {wider : α → World → Prop} {activity : Activity α}
    (reaches : Reaches goal activity world)
    (includes : ∀ value later, goal value later → wider value later) :
    Reaches wider activity world := by
  rw [← Program.bind_pure activity]
  exact reaches.bind_of_stays fun value later stays passed =>
    includes value _ (stays passed)

theorem now {moment : Moment α} {next : α → Activity β}
    (later : ∀ passed, Reaches aim (next (moment (world.after passed)).1)
      (moment (world.after passed)).2) :
    Reaches aim ((Activity.now moment).bind next) world :=
  later

theorem runIn_bind {interface : Interface} {First : Type}
    {program : Program interface First} {next : First → Program interface α}
    {answer : (request : interface.Request) →
      Activity (interface.Answer request)} {middle : First → World → Prop}
    (first : Reaches middle (program.runIn answer) world)
    (second : ∀ value later, middle value later →
      Reaches goal ((next value).runIn answer) later) :
    Reaches goal ((program.bind next).runIn answer) world := by
  rw [Program.runIn_bind]
  exact first.bind second

theorem get {next : World → Activity β}
    (later :
      ∀ passed, Reaches aim (next (world.after passed)) (world.after passed)) :
    Reaches aim ((Activity.now get).bind next) world :=
  later

theorem inQueue {act : Queue → Queue × α} {next : α → Activity β}
    {otherwise : α} (held : world.channelState channel = .queue queue)
    (later : ∀ after, World.channelState after channel = .queue (act queue).1 →
      Reaches aim (next (act queue).2) after) :
    Reaches aim ((Activity.now (Moment.inQueue channel otherwise act)).bind
      next) world := by
  refine Reaches.now fun passed => ?_
  have stillHeld : (world.after passed).channelState channel = .queue queue :=
    held
  rw [inQueue_value stillHeld]
  exact later _ (changes_inQueue otherwise act _ queue stillHeld)

theorem changeQueue {change : Queue → Queue} {next : Unit → Activity β}
    (held : world.channelState channel = .queue queue)
    (later : ∀ after, World.channelState after channel = .queue (change queue) →
      Reaches aim (next ()) after) :
    Reaches aim ((Activity.now (modify (World.changeQueue channel change))).bind
      next) world :=
  fun passed =>
    later _ (changes_changeQueue change (world.after passed) queue held)

theorem awaitWithin {limit : Nat} {isReady : World → Bool}
    {giveUp : World → World} {next : Bool → Activity β}
    (ready : ∀ passed, isReady (world.after passed) = true →
      Reaches aim (next true) (world.after passed))
    (late : ∀ passed, isReady (world.after passed) = false →
      Reaches aim (next false) (giveUp (world.after passed))) :
    Reaches aim
      ((Activity.awaitWithin limit isReady giveUp).bind next) world := by
  intro passed
  have readyStill : ∀ more, isReady ((world.after passed).after more) = true →
      Reaches aim (next true) ((world.after passed).after more) := by
    intro more
    rw [World.after_after]
    exact ready _
  have lateStill : ∀ more, isReady ((world.after passed).after more) = false →
      Reaches aim (next false) (giveUp ((world.after passed).after more)) := by
    intro more
    rw [World.after_after]
    exact late _
  refine ⟨readyStill, fun more notNow _ => lateStill more notNow,
    fun more => ⟨limit, .inr ?_⟩⟩
  have isLate : (world.after passed).now + limit ≤
        (world.after passed).now + (more + limit) :=
    Nat.add_le_add_left (Nat.le_add_left limit more) _
  exact decide_eq_true isLate

end Reaches

namespace Crowd

def Move.IsOf (call : Nat) : Move → Prop
  | .turn other => other = call
  | .drop _ => False
  | .pass _ => True

/-- Where a call is that nobody disturbs: it is on the way to a goal, or has
reached it. -/
def Pursues (goal : Answer → World → Prop) (call : Nat)
    (crowd : Crowd) : Prop :=
  (∃ task, crowd.task call = some task ∧ crowd.finished = [] ∧
    Reaches goal task.rest crowd.world) ∨
  ∃ answer, crowd.task call = none ∧ crowd.finished = [(call, answer)] ∧
    ∀ passed, goal answer (crowd.world.after passed)

namespace Pursues

variable {goal : Answer → World → Prop} {call : Nat} {crowd : Crowd}
  {task later : Task}

theorem pass (pursues : Pursues goal call crowd) (passed : Nat) :
    Pursues goal call (crowd.pass passed) := by
  rcases pursues with ⟨task, found, unfinished, reaches⟩ |
    ⟨answer, gone, finished, reached⟩
  · exact .inl ⟨task, found, unfinished, reaches.after passed⟩
  · refine .inr ⟨answer, gone, finished, fun more => ?_⟩
    have same : (crowd.pass passed).world.after more =
          crowd.world.after (passed + more) :=
      crowd.world.after_after passed more
    rw [same]
    exact reached _

theorem settle (unfinished : crowd.finished = [])
    (reaches : Reaches goal later.rest crowd.world) :
    Pursues goal call (crowd.settle call later) := by
  cases rest : later.rest with
  | done answer =>
      rw [rest] at reaches
      rw [settle_of_done rest]
      exact .inr ⟨answer, if_pos rfl,
        congrArg (· ++ [(call, answer)]) unfinished, reaches⟩
  | ask step next =>
      rw [settle_of_ask rest]
      exact .inl ⟨later, if_pos rfl, unfinished, reaches⟩

theorem step {world : World} (reaches : Reaches goal task.rest world) :
    Reaches goal (task.step world).2.rest (task.step world).1 := by
  obtain ⟨number, rest, cutOff, cleanUps⟩ := task
  cases rest with
  | done answer => exact reaches
  | ask step next =>
      cases step with
      | act change => exact reaches 0
      | sleep wake =>
          by_cases awake : wake ≤ world.now
          · simp only [Task.step, if_pos awake]
            exact reaches 0 awake
          · simp only [Task.step, if_neg awake]
            exact reaches
      | await isReady deadline giveUp =>
          by_cases isNow : isReady world = true
          · simp only [Task.step, if_pos isNow]
            exact reaches.1 0 isNow
          · by_cases isLate : (deadline.any fun time => time ≤ world.now) = true
            · simp only [Task.step, if_neg isNow, if_pos isLate]
              exact reaches.2.1 0 (Bool.eq_false_iff.mpr isNow) isLate
            · simp only [Task.step, if_neg isNow, if_neg isLate]
              exact reaches
      | protect cleanUp => exact reaches 0
      | unprotect => exact reaches 0

theorem turn (pursues : Pursues goal call crowd) :
    Pursues goal call (crowd.turn call) := by
  rcases pursues with ⟨task, found, unfinished, reaches⟩ |
    ⟨answer, gone, finished, reached⟩
  · simp only [Crowd.turn, found]
    exact settle unfinished (step reaches)
  · simp only [Crowd.turn, gone]
    exact .inr ⟨answer, gone, finished, reached⟩

theorem play (pursues : Pursues goal call crowd) {moves : List Move}
    (undisturbed : ∀ move ∈ moves, move.IsOf call) :
    Pursues goal call (crowd.play moves) := by
  induction moves generalizing crowd with
  | nil => exact pursues
  | cons move rest induction =>
      obtain ⟨here, others⟩ := List.forall_mem_cons.mp undisturbed
      cases move with
      | turn other =>
          obtain rfl : other = call := here
          exact induction pursues.turn others
      | drop other => cases here
      | pass passed => exact induction (pursues.pass passed) others

theorem exists_step {world : World} {step : Step}
    {next : step.Answer → Activity Answer}
    (asks : task.rest = Program.ask step next)
    (reaches : Reaches goal task.rest world) :
    ∃ passed reply, (task.step (world.after passed)).2.rest = next reply := by
  obtain ⟨number, rest, cutOff, cleanUps⟩ := task
  obtain rfl : rest = Program.ask step next := asks
  cases step with
  | act change => exact ⟨0, _, rfl⟩
  | sleep wake =>
      have awake : wake ≤ (world.after wake).now :=
        Nat.le_add_left wake world.now
      refine ⟨wake, (), ?_⟩
      simp only [Task.step, if_pos awake]
  | await isReady deadline giveUp =>
      obtain ⟨more, goesOn⟩ := reaches.2.2 0
      rw [Nat.zero_add] at goesOn
      by_cases isNow : isReady (world.after more) = true
      · refine ⟨more, true, ?_⟩
        simp only [Task.step, if_pos isNow]
      · refine ⟨more, false, ?_⟩
        simp only [Task.step, if_neg isNow, if_pos (goesOn.resolve_left isNow)]
  | protect cleanUp => exact ⟨0, (), rfl⟩
  | unprotect => exact ⟨0, (), rfl⟩

theorem turn_pass (found : crowd.task call = some task) (passed : Nat) :
    (crowd.pass passed).turn call =
      { crowd with
        world := (task.step (crowd.world.after passed)).1
        begun := crowd.begunWith call }.settle call
          (task.step (crowd.world.after passed)).2 := by
  have stillFound : (crowd.pass passed).task call = some task := found
  simp only [Crowd.turn, stillFound]
  rfl

theorem exists_end {rest : Activity Answer}
    (found : crowd.task call = some task)
    (isLeft : task.rest = rest) (unfinished : crowd.finished = [])
    (reaches : Reaches goal rest crowd.world) :
    ∃ moves : List Move, (∀ move ∈ moves, move.IsOf call) ∧
      ∃ answer, (crowd.play moves).finished = [(call, answer)] := by
  induction rest generalizing crowd task with
  | done answer =>
      refine ⟨[.turn call], by simp [Move.IsOf], answer, ?_⟩
      have stays : task.step crowd.world = (crowd.world, task) := by
        simp only [Task.step, isLeft]
      simp only [Crowd.play, List.foldl_cons, List.foldl_nil, Crowd.move,
        Crowd.turn, found, stays, settle_of_done isLeft, unfinished,
        List.nil_append]
  | ask asked next induction =>
      rw [← isLeft] at reaches
      obtain ⟨passed, reply, stepped⟩ := exists_step isLeft reaches
      have onTheWay := step (reaches.after passed)
      have turned := turn_pass found passed
      generalize task.step (crowd.world.after passed) = after
        at stepped onTheWay turned
      obtain ⟨world, later⟩ := after
      rw [stepped] at onTheWay
      cases goesOn : next reply with
      | done answer =>
          refine ⟨[.pass passed, .turn call], by simp [Move.IsOf], answer, ?_⟩
          simp only [Crowd.play, List.foldl_cons, List.foldl_nil, Crowd.move]
          rw [turned, settle_of_done (stepped.trans goesOn), unfinished]
          rfl
      | ask again rest =>
          rw [settle_of_ask (stepped.trans goesOn)] at turned
          have stillFound :
              ({ crowd with world, begun := crowd.begunWith call }.put call
                (some later)).task call = some later := if_pos rfl
          obtain ⟨moves, undisturbed, ended⟩ :=
            induction reply stillFound stepped unfinished onTheWay
          refine ⟨.pass passed :: .turn call :: moves, ?_, ?_⟩
          · simpa [Move.IsOf] using undisturbed
          · simp only [Crowd.play, List.foldl_cons, Crowd.move]
            rw [turned]
            exact ended

theorem ends (pursues : Pursues goal call crowd) :
    ∃ moves : List Move,
      (∀ move ∈ moves, move.IsOf call) ∧
        ∃ answer, (crowd.play moves).finished = [(call, answer)] := by
  rcases pursues with ⟨task, found, unfinished, reaches⟩ |
    ⟨answer, gone, finished, reached⟩
  · exact exists_end found rfl unfinished reaches
  · exact ⟨[], nofun, answer, finished⟩

theorem reached (pursues : Pursues goal call crowd) {answer : Answer}
    (finished : (call, answer) ∈ crowd.finished) : goal answer crowd.world := by
  rcases pursues with ⟨task, found, unfinished, reaches⟩ |
    ⟨ended, gone, once, reached⟩
  · simp [unfinished] at finished
  · rw [once] at finished
    obtain ⟨rfl⟩ : answer = ended := by simpa using finished
    exact reached 0

end Pursues

end Crowd

end Simulation

end Collate
