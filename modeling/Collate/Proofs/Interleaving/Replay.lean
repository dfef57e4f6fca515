import Collate.Proofs.Interleaving.Likeness

namespace Collate.Interleaving

variable {environment others : Environment} {call : Nat} {key : Key}
  {ticket : Nat} {α β : Type}

def stay (environment : Environment) (call : Nat) (key : Key) :
    Call α → Visit → α × Visit
  | Program.done value, visit => (value, visit)
  | Program.ask request next, visit =>
      let (after, answer) :=
        visit.respond (environment call visit.own.length) none call key request
      stay environment call key (next answer) after

theorem Discipline.Ensures.stay {discipline : Discipline} {program : Call α}
    {visit : Visit}
    {post : α → Visit → Prop} (unbounded : discipline.capacity = 0)
    (ensures : discipline.Ensures call key ticket program visit post) :
    discipline.Ensures call key ticket program visit fun value after =>
      post value after ∧
        (value, after) =
          Interleaving.stay discipline.environment call key program visit := by
  induction program generalizing visit with
  | done value => exact ⟨ensures, rfl⟩
  | ask request next induction =>
      obtain ⟨isAbout, allowed, going⟩ := ensures
      refine ⟨isAbout, allowed,
        fun refusal mayRefuse after answer responded => ?_⟩
      refine (induction answer (going refusal mayRefuse after answer
        responded)).imp fun value last ⟨holds, stays⟩ => ⟨holds, stays.trans ?_⟩
      rw [unbounded] at mayRefuse
      obtain rfl := mayRefuse.eq_none
      simp only [Interleaving.stay, ← responded]

theorem Discipline.Ensures.of_stay {discipline : Discipline} {program : Call α}
    {visit : Visit} {post : α → Visit → Prop}
    (ensures : discipline.Ensures call key ticket program visit post) :
    post (Interleaving.stay discipline.environment call key program visit).1
      (Interleaving.stay discipline.environment call key program visit).2 := by
  induction program generalizing visit with
  | done value => exact ensures
  | ask request next induction =>
      obtain ⟨-, -, going⟩ := ensures
      exact induction _ (going none (.inl rfl) _ _ rfl)

def View.arrive (view : View) (call : Nat) (key : Key) : Visit where
  own := [⟨call, none, .asked key⟩, ⟨call, some key, .entered⟩]
  view := view.enter call key

def View.visited (view : View) (environment : Environment) (call : Nat)
    (key : Key) (program : Call Result) : View :=
  let stayed := stay environment call key program (view.arrive call key)
  stayed.2.view.leave call key (some stayed.1)

/-- The view of a key after visits of calls that run programs by the tickets
they get. -/
inductive Replayed (environment : Environment)
    (course : Nat → Nat → Call Result) (key : Key) : List Nat → View → Prop
  | start : Replayed environment course key [] .start
  | visit {visitors : List Nat} {view : View}
      (replayed : Replayed environment course key visitors view)
      (call ticket : Nat) : Replayed environment course key (visitors ++ [call])
        (view.visited environment call key (course call ticket))

namespace Likeness

variable {likeness : Likeness}

theorem SameCourse.stay {same : α → β → Prop} {program : Call α}
    {other : Call β} (course : likeness.SameCourse same program other)
    (agree : ∀ turn, likeness.SameCircumstances
      (environment call turn) (others call turn)) (key : Key)
    (visit meeting : Visit) (views : likeness.SameView visit.view meeting.view)
    (turns : visit.own.length = meeting.own.length) :
    same (stay environment call key program visit).1
      (stay others call key other meeting).1 ∧
    likeness.SameView (Interleaving.stay
      environment call key program visit).2.view
      (Interleaving.stay others call key other meeting).2.view := by
  induction course generalizing visit meeting with
  | done come => exact ⟨come, views⟩
  | ask question _ induction =>
      have circumstances :
          likeness.SameCircumstances (environment call visit.own.length)
            (others call meeting.own.length) := turns ▸ agree visit.own.length
      obtain ⟨alike, told⟩ := views.respond circumstances call key question
      exact induction _ _ told _ _ alike (by simp [turns])

theorem SameView.visited {view other : View}
    (same : likeness.SameView view other)
    (agree : ∀ turn, likeness.SameCircumstances (environment call turn)
      (others call turn)) {program following : Call Result}
    (course : likeness.SameCourse Eq program following) :
    likeness.SameView (view.visited environment call key program)
      (other.visited others call key following) := by
  obtain ⟨results, views⟩ := course.stay agree key (view.arrive call key)
      (other.arrive call key) (same.enter call key) rfl
  simp only [View.visited, results]
  exact views.leave call key _

theorem sameView_of_replayed {course following : Nat → Nat → Call Result}
    {visitors : List Nat} {view other : View}
    (agree : ∀ call turn,
      likeness.SameCircumstances (environment call turn) (others call turn))
    (courses : ∀ call ticket claimed,
      likeness.SameCourse Eq (course call ticket) (following call claimed))
    (replayed : Replayed environment course key visitors view)
    (again : Replayed others following key visitors other) :
    likeness.SameView view other := by
  induction replayed generalizing other with
  | start =>
      generalize none : [] = visits at again
      cases again with
      | start => exact ⟨.none, rfl, .nil⟩
      | visit => simp at none
  | @visit visitors view replayed call ticket induction =>
      generalize same : visitors ++ [call] = visits at again
      cases again with
      | start => simp at same
      | @visit others view again other claimed =>
          obtain ⟨rfl, last⟩ := List.append_inj' same rfl
          obtain rfl : call = other := by simpa using last
          exact (induction again).visited (agree call)
            (courses call ticket claimed)

end Likeness

end Collate.Interleaving
