namespace Collate

/-- The questions that programs may ask, and the type of the answers to each. -/
structure Interface where
  Request : Type
  Answer : Request → Type

/-- A finite computation that gets its knowledge from answers. -/
inductive Program (interface : Interface) (α : Type) : Type where
  | done (value : α)
  | ask (request : interface.Request)
      (next : interface.Answer request → Program interface α)

namespace Program

variable {interface : Interface} {α β γ : Type}

def bind : Program interface α → (α → Program interface β) → Program interface β
  | .done value, next => next value
  | .ask request rest, next =>
      .ask request fun answer => (rest answer).bind next

instance : Monad (Program interface) where
  pure := .done
  bind := bind

def request (request : interface.Request) :
    Program interface (interface.Answer request) :=
  .ask request .done

@[simp] theorem pure_eq (value : α) :
    (pure value : Program interface α) = .done value := rfl

@[simp] theorem bind_eq (program : Program interface α)
    (next : α → Program interface β) :
    program >>= next = program.bind next := rfl

@[simp] theorem bind_done (value : α) (next : α → Program interface β) :
    (Program.done value : Program interface α).bind next = next value := rfl

@[simp] theorem bind_ask (request : interface.Request)
    (rest : interface.Answer request → Program interface α)
    (next : α → Program interface β) :
    (Program.ask request rest).bind next =
      .ask request fun answer => (rest answer).bind next := rfl

theorem bind_assoc (program : Program interface α)
    (second : α → Program interface β) (third : β → Program interface γ) :
    (program.bind second).bind third =
      program.bind fun value => (second value).bind third := by
  induction program with
  | done value => rfl
  | ask request rest induction =>
      simp only [bind_ask]
      exact congrArg (Program.ask request)
        (funext fun answer => induction answer)

theorem bind_pure (program : Program interface α) :
    program.bind .done = program := by
  induction program with
  | done value => rfl
  | ask request rest induction =>
      simp only [bind_ask]
      exact congrArg (Program.ask request)
        (funext fun answer => induction answer)

def runIn {Effect : Type → Type} [Monad Effect]
    (answer : (request : interface.Request) →
      Effect (interface.Answer request)) : Program interface α → Effect α
  | .done value => pure value
  | .ask request rest =>
      answer request >>= fun reply => (rest reply).runIn answer

theorem runIn_bind {Effect : Type → Type} [Monad Effect] [LawfulMonad Effect]
    {First Second : Type}
    (answer : (request : interface.Request) → Effect (interface.Answer request))
    (program : Program interface First)
    (next : First → Program interface Second) :
    (program.bind next).runIn answer =
      program.runIn answer >>= fun value => (next value).runIn answer := by
  induction program with
  | done value =>
      exact (pure_bind value fun value => (next value).runIn answer).symm
  | ask request rest induction =>
      simp only [bind_ask, runIn, induction, LawfulMonad.bind_assoc]

end Program

end Collate
