import Collate.Group

namespace Collate

abbrev ReleasePolicy := Group → Bool

namespace Release

def isRunFrom (first : Nat) : List Nat → Bool
  | [] => true
  | number :: rest => number = first && isRunFrom (first + 1) rest

/-- Whether the unmarked members, in the order of their numbers, go on where the
marked ones end. At least one has to be there. Nothing is said here of a last
released number that is the greatest of 32 bits: the next one has more. -/
def continuesSequence (group : Group) : Bool :=
  let numbers := (group.unmarked.map Message.sequenceNumber).mergeSort
  !numbers.isEmpty && isRunFrom (group.lastReleased + 1) numbers

/-- Releases complete groups. Where partial runs are allowed, it also releases
unmarked members that go on from the marked ones without a gap. -/
def sequence (partialRuns : Bool) : ReleasePolicy := fun group =>
  group.isComplete || (partialRuns && continuesSequence group)

def count (threshold : Nat) : ReleasePolicy := fun group =>
  threshold ≤ group.unmarked.length

end Release

end Collate
