import Collate.Proofs.Interleaving.Serial
import Collate.Proofs.Store.Sharing

namespace Collate.Interleaving

variable {environment : Environment} {system : System} {call : Nat} {key : Key}
  {generation : Nat}

namespace System

def question? (system : System) (call : Nat) : Option Engine.Request :=
  match system.phase call with
  | .outside (Program.ask request _) => some request
  | .inside _ _ (Program.ask request _) => some request
  | _ => none

theorem advance_cases (environment : Environment) (system : System)
    (call : Nat) :
    (∃ request place phase, system.question? call = some request ∧
      system.advance environment call = system.respond
        (environment call (system.own call).length) call place request phase) ∨
    (system.advance environment call).store = system.store ∧
    ∃ new, (system.advance environment call).own call = system.own call ++ new ∧
      ∀ event ∈ new, ∀ request answer, event.act ≠
        .answered request answer := by
  have still : ∃ new, system.own call = system.own call ++ new ∧
      ∀ event ∈ new, ∀ request answer, event.act ≠ .answered request answer :=
    ⟨[], by simp, by simp⟩
  unfold advance question?
  cases phase : system.phase call with
  | outside rest =>
      cases rest with
      | done result => exact .inr ⟨rfl, still⟩
      | ask request next =>
          cases request with
          | lock key => exact .inr ⟨rfl, _, own_go _ _ _, by simp⟩
          | _ => exact .inl ⟨_, _, _, rfl, rfl⟩
  | waiting key ticket next =>
      dsimp only
      split
      · exact .inr ⟨rfl, _, own_go _ _ _, by simp⟩
      · exact .inr ⟨rfl, still⟩
  | inside key ticket rest =>
      cases rest with
      | done result => exact .inr ⟨rfl, still⟩
      | ask request next =>
          cases request with
          | unlock given => exact .inr ⟨rfl, _, own_go _ _ _, by simp⟩
          | _ => exact .inl ⟨_, _, _, rfl, rfl⟩

theorem own_respond (system : System) (circumstances : Circumstances)
    (call : Nat) (place : Option Key)
    (request : Engine.Request) (phase : request.Answer → Phase) :
    (system.respond circumstances call place request phase).own call =
      system.own call ++ [⟨call, place,
        .answered request (circumstances.answer system.store request).2⟩] := by
  rw [respond_eq]
  exact own_go _ _ _

theorem length_own_advance_le (environment : Environment) (system : System)
    (call other : Nat) :
    (system.own other).length ≤
      ((system.advance environment call).own other).length := by
  obtain ⟨new, trace, -⟩ := trace_advance environment system call
  rw [own, own, trace, List.filter_append, List.length_append]
  exact Nat.le_add_right _ _

def Issued (environment : Environment) (system : System)
    (generation : Nat) : Prop :=
  ∃ call turn, turn < (system.own call).length ∧
    generation = (environment call turn).generation

theorem Issued.advance (issued : system.Issued environment generation)
    (call : Nat) :
    (system.advance environment call).Issued environment generation := by
  obtain ⟨issuer, turn, before, same⟩ := issued
  exact ⟨issuer, turn, Nat.lt_of_lt_of_le before
    (length_own_advance_le environment system call issuer), same⟩

theorem Issued.run (issued : system.Issued environment generation)
    (schedule : List Nat) :
    (system.run environment schedule).Issued environment generation := by
  induction schedule generalizing system with
  | nil => exact issued
  | cons call rest induction => exact induction (issued.advance call)

theorem generation_of_advance
    (has :
      (system.advance environment call).store.HasGeneration key generation) :
    system.store.HasGeneration key generation ∨
    generation = (environment call (system.own call).length).generation ∧
    (system.own call).length <
      ((system.advance environment call).own call).length := by
  rcases advance_cases environment system call with
    ⟨request, place, phase, -, answers⟩ | ⟨same, -⟩
  · rw [answers] at has ⊢
    rw [own_respond, List.length_append]
    refine has.of_answer.imp_right fun new => ⟨new, ?_⟩
    exact Nat.lt_succ_self _
  · rw [same] at has
    exact .inl has

theorem issued_run
    (issued : ∀ generation, system.store.HasGeneration key generation →
      system.Issued environment generation) (schedule : List Nat)
    (has :
      (system.run environment schedule).store.HasGeneration key generation) :
    (system.run environment schedule).Issued environment generation := by
  induction schedule generalizing system with
  | nil => exact issued generation has
  | cons call rest induction =>
      refine induction (fun generation has => ?_) has
      rcases generation_of_advance has with held | ⟨new, later⟩
      · exact (issued generation held).advance call
      · exact ⟨call, _, later, new⟩

theorem issued_of_hasGeneration {capacity : Nat} {program : Nat → Call Result}
    {schedule : List Nat}
    (has : ((start capacity program).run
      environment schedule).store.HasGeneration key generation) :
    ((start capacity program).run environment schedule).Issued environment
      generation := by
  refine issued_run (fun generation nothing => ?_) schedule has
  obtain ⟨group, found, -⟩ := nothing
  cases found

variable (fresh : ∀ call turn other again,
  (environment call turn).generation = (environment other again).generation →
    call = other ∧ turn = again)

include fresh

theorem gone_run (issued : system.Issued environment generation)
    (gone : ¬ system.store.HasGeneration key generation) (schedule : List Nat) :
    ¬ (system.run environment schedule).store.HasGeneration key generation := by
  induction schedule generalizing system with
  | nil => exact gone
  | cons call rest induction =>
      refine induction (issued.advance call) fun has => ?_
      rcases generation_of_advance has with held | ⟨new, -⟩
      · exact gone held
      · obtain ⟨issuer, turn, before, old⟩ := issued
        obtain ⟨rfl, rfl⟩ := fresh issuer turn call _ (old.symm.trans new)
        exact Nat.lt_irrefl _ before

end System

end Collate.Interleaving
