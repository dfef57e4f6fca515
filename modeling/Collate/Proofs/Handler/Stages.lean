import Collate.Proofs.Interleaving.Discipline

namespace Collate

namespace Handler

def place (handler : Handler) (ticket : Nat) (key : Key) (message : Message)
    (group : Group) : Call (Except Error Unit) := do
  if !group.isEmpty then Call.ask (.retain ticket)
  if group.canAdd message then handler.enroll ticket key message
  else do
    Call.log (.rejected key message)
    handler.discard key message

theorem receive_eq (handler : Handler) (ticket : Nat) (key : Key)
    (message : Message) :
    handler.receive ticket key message =
      (Call.ask (.load key)).bind fun answer =>
        match answer with
        | .error error => Program.done (.error error)
        | .ok group => handler.place ticket key message group := rfl

def finishFound (handler : Handler) (ticket : Nat) (seen group : Group) :
    Call (Except Error Bool) := do
  if group.isEmpty then do
    Call.log (.nothingToFinish seen.key)
    return .ok false
  else do
    Call.ask (.retain ticket)
    if group.generation ≠ seen.generation then do
      Call.log (.replaced seen.key)
      return .ok false
    else handler.finish ticket seen.key group

theorem finishSeen_eq (handler : Handler) (ticket : Nat) (seen : Group) :
    handler.finishSeen ticket seen =
      (Call.ask (.load seen.key)).bind fun answer =>
        match answer with
        | .error error => Program.done (.error error)
        | .ok group => handler.finishFound ticket seen group := rfl

end Handler

namespace Interleaving.Discipline

variable {discipline : Discipline} {handler : Handler} {call ticket : Nat}
  {key : Key} {visit : Visit} {group : Group} {P : Visit → Prop}

/-- A message is added or turned away in the same state, whether or not the
entry of its key had to be kept first. -/
theorem ensures_place {post : Except Error Unit → Visit → Prop}
    {message : Message} (holds : P visit)
    (retains :
      discipline.Ensures call key ticket (Call.ask (.retain ticket)) visit
        fun _ after => P after)
    (enrolls : group.canAdd message = true → ∀ looked, P looked →
      discipline.Ensures call key ticket (handler.enroll ticket key message)
        looked post)
    (rejects : ∀ looked, P looked →
      discipline.Ensures call key ticket
        (do
          Call.log (.rejected key message)
          handler.discard key message) looked post) :
    discipline.Ensures call key ticket (handler.place ticket key message group)
      visit post := by
  have going : ∀ looked, P looked →
      discipline.Ensures call key ticket
        (if group.canAdd message then handler.enroll ticket key message
        else do
          Call.log (.rejected key message)
          handler.discard key message) looked post := by
    intro looked holds
    split
    · rename_i admits
      exact enrolls admits looked holds
    · exact rejects looked holds
  dsimp only [Handler.place]
  split
  · exact Ensures.next retains fun _ retained holds => going retained holds
  · exact going visit holds

/-- A group is finished only if it is there and is the one that was seen; else
nothing is done about it but to say so. -/
theorem ensures_finishFound {post : Except Error Bool → Visit → Prop}
    {seen : Group} (holds : P visit)
    (retains :
      discipline.Ensures call key ticket (Call.ask (.retain ticket)) visit
        fun _ after => P after)
    (leaves : ∀ looked event, P looked →
      discipline.Ensures call key ticket
        (do
          Call.log event
          return .ok false) looked post)
    (finishes : group.isEmpty = false → ∀ looked, P looked →
      discipline.Ensures call key ticket (handler.finish ticket seen.key group)
        looked post) :
    discipline.Ensures call key ticket (handler.finishFound ticket seen group)
      visit post := by
  unfold Handler.finishFound
  split
  · exact leaves visit _ holds
  · rename_i notEmpty
    refine Ensures.next retains fun _ retained holds => ?_
    split
    · exact leaves retained _ holds
    · exact finishes (Bool.eq_false_iff.mpr notEmpty) retained holds

end Interleaving.Discipline

end Collate
