import Collate.Proofs.Handler.Conservation
import Collate.Proofs.Handler.Ledger

namespace Collate.Interleaving

open Discipline

variable {discipline : Discipline} {handler : Handler}
  {calls : Nat → Invocation} {key : Key} {call ticket : Nat} {visit : Visit}
  {stored : Option Group} {ledger : Ledger} {group : Group} {message : Message}

/-- The ledger of a key is in order when nobody has the lock: what waits is what
is stored, and nothing that waits has been delivered, unless by a call that has
failed to remove the group. -/
structure Settled (handler : Handler) (calls : Nat → Invocation) (key : Key)
    (stored : Option Group) (ledger : Ledger) : Prop where
  kept : Kept handler key stored
  named : (waiting stored).map some =
      ledger.waiting.map fun call => (calls call).message?
  apart : IsOnceOf ledger.brought (ledger.counted ++ ledger.waiting)
  once : IsOnceOf ledger.brought ledger.deliveries

/-- The ledger of a key when a call has got the lock and has delivered nothing
yet: the call may have a spare message, which is not stored. -/
structure Opened (handler : Handler) (calls : Nat → Invocation) (key : Key)
    (spare : List Nat) (stored : Option Group) (ledger : Ledger) : Prop where
  kept : Kept handler key stored
  named : (waiting stored).map some =
      ledger.waiting.map fun call => (calls call).message?
  apart :
    IsOnceOf ledger.brought (ledger.delivered ++ (ledger.waiting ++ spare))
  handed : ledger.handed = []
  offered : ledger.offered = 0
  trying : ledger.hasFailed = false

theorem settled_start : Settled handler calls key none .start where
  kept := kept_none
  named := rfl
  apart := ⟨List.nodup_nil, List.nil_subset _⟩
  once := ⟨List.nodup_nil, List.nil_subset _⟩

theorem Settled.enter (settled : Settled handler calls key stored ledger)
    (call : Nat)
    (brings : Bool) (fresh : brings = true → call ∉ ledger.brought) :
    Opened handler calls key (if brings then [call] else []) stored
      (ledger.enter call brings) where
  kept := settled.kept
  named := settled.named
  apart := by
    cases brings with
    | false => simpa [Ledger.enter] using settled.apart
    | true => simpa [Ledger.enter] using settled.apart.concat (fresh rfl)
  handed := rfl
  offered := rfl
  trying := rfl

namespace Opened

variable {spare : List Nat}
  (opened : Opened handler calls key spare stored ledger)

include opened

theorem isOnce_of_sublist {handed : List Nat}
    (sublist : handed.Sublist (ledger.waiting ++ spare)) :
    IsOnceOf ledger.brought (ledger.delivered ++ handed) :=
  opened.apart.of_subperm (sublist.append_left _).subperm

theorem isOnce : IsOnceOf ledger.brought ledger.deliveries := by
  rw [Ledger.deliveries, opened.handed]
  exact opened.isOnce_of_sublist (List.nil_sublist _)

theorem handed_sublist : ledger.handed.Sublist ledger.waiting := by
  rw [opened.handed]
  exact List.nil_sublist _

theorem replied_sublist :
    (ledger.handed ++ ledger.waiting).Sublist ledger.waiting := by
  rw [opened.handed]
  exact List.Sublist.refl _

theorem settled (given : List Nat) (hasFailed : Bool) :
    Settled handler calls key stored { ledger with given, hasFailed } where
  kept := opened.kept
  named := opened.named
  apart := by
    rw [Ledger.counted, opened.handed, ite_self, List.append_nil]
    exact opened.isOnce_of_sublist (List.sublist_append_left _ _)
  once := opened.isOnce

theorem settled_of_spare (offered : Nat) :
    Settled handler calls key stored
      { ledger with offered, handed := spare } where
  kept := opened.kept
  named := opened.named
  apart := by
    rw [Ledger.counted, opened.trying, if_neg Bool.false_ne_true,
      List.append_assoc]
    exact opened.apart.of_subperm (List.perm_append_comm.append_left _).subperm
  once := opened.isOnce_of_sublist (List.sublist_append_right _ _)

theorem settled_of_failed (given : List Nat) (offered : Nat) {handed : List Nat}
    (sublist : handed.Sublist ledger.waiting) :
    Settled handler calls key stored
      { ledger with given, offered, handed, hasFailed := true } where
  kept := opened.kept
  named := opened.named
  apart := by
    simp only [Ledger.counted, if_true, List.append_nil]
    exact opened.isOnce_of_sublist (List.sublist_append_left _ _)
  once :=
    opened.isOnce_of_sublist (sublist.trans (List.sublist_append_left _ _))

theorem settled_of_cleared {left : Option Group} (kept : Kept handler key left)
    (nothing : waiting left = []) (given : List Nat) (offered : Nat)
    {handed : List Nat} (sublist : handed.Sublist ledger.waiting) :
    Settled handler calls key left
      { ledger with waiting := [], given, offered, handed } where
  kept := kept
  named := by simp [nothing]
  apart := by
    simp only [Ledger.counted, opened.trying, Bool.false_eq_true, if_false,
      List.append_nil]
    exact opened.isOnce_of_sublist
      (sublist.trans (List.sublist_append_left _ _))
  once :=
    opened.isOnce_of_sublist (sublist.trans (List.sublist_append_left _ _))

end Opened

theorem Opened.enlist (opened : Opened handler calls key [call] stored ledger)
    (brings : (calls call).message? = some message)
    (correlated : handler.correlation message = some key) (generation : Nat)
    (time : Int) :
    Opened handler calls key
      [] (some ((stored.getD (.empty key generation time)).add message time))
      (ledger.enlist call) where
  kept :=
    kept_some ((opened.kept.getD_empty generation time).add correlated time)
  named := by
    change (Group.add _ message time).unmarked.map some = _
    rw [(opened.kept.getD_empty generation time).unmarked_add,
      waiting_getD_empty]
    simp [Ledger.enlist, brings, opened.named]
  apart := by simpa [Ledger.enlist] using opened.apart
  handed := opened.handed
  offered := opened.offered
  trying := opened.trying

/-! The course of a call. What it delivers is a part of what waited when it got
the lock; then either the group goes, or the deliveries do not count. -/

def Settles (handler : Handler) (calls : Nat → Invocation) (key : Key)
    (visit : Visit) : Prop :=
  ∃ stored ledger, visit.Shows calls stored ledger ∧
    Settled handler calls key stored ledger

namespace Discipline.Accounts

variable (accounts : discipline.Accounts handler calls key)

include accounts

theorem ensures_replies {α : Type} {program : Call α}
    (asks : Asks (IsQuiet ticket) program)
    (shows : visit.Shows calls stored ledger)
    (once : IsOnceOf
      ledger.brought (ledger.delivered ++ (ledger.handed ++ ledger.given))) :
    discipline.Ensures call key ticket program visit fun _ after =>
      after.Shows calls stored ledger ∨
        after.Shows calls stored ledger.reply := by
  -- By induction on the program; once a reply has been sent, further replies
  -- change nothing.
  induction program generalizing visit ledger with
  | done value => exact .inl shows
  | ask request next induction =>
      obtain ⟨quiet, asks⟩ := asks
      have before : IsOnceOf ledger.brought ledger.deliveries :=
        once.of_subperm ((List.sublist_append_left _ _).append_left _).subperm
      have answered : discipline.Ensures call key ticket (Call.ask request)
        visit fun _ after =>
          after.Shows calls stored ledger ∨
            after.Shows calls stored ledger.reply := by
        cases request with
        | deliverWithin limit channel message =>
            exact accounts.ensures_reply shows before limit channel message
        | judge | retain | retire | build | resolve | log =>
            exact Ensures.imp (accounts.ensures_unmoved shows before quiet)
              fun _ _ => .inl
        | _ => exact quiet.elim
      have going : discipline.Ensures call key ticket
        ((Call.ask request).bind next) visit fun _ after =>
            after.Shows calls stored ledger ∨
              after.Shows calls stored ledger.reply := by
        refine answered.next fun answer middle shown => ?_
        rcases shown with shows | shows
        · exact induction answer (asks answer) shows once
        · refine (induction answer (asks answer) shows (by
            simpa [Ledger.reply] using once)).imp fun _ after shown => .inr ?_
          rw [Ledger.reply_reply] at shown
          exact shown.elim id id
      exact going

theorem ensures_dispatch (shows : visit.Shows calls stored ledger)
    (once : IsOnceOf
      ledger.brought (ledger.delivered ++ (ledger.handed ++ ledger.given)))
    (name : Key) (outcome : Outcome) (address : Option HeaderValue) :
    discipline.Ensures call key ticket (handler.dispatch name outcome address)
      visit fun _ after => after.Shows calls stored ledger ∨
        after.Shows calls stored ledger.reply :=
  accounts.ensures_replies (asks_dispatch handler ticket _ outcome address)
    shows once

theorem ensures_discard (shows : visit.Shows calls stored ledger)
    (once : IsOnceOf ledger.brought ledger.deliveries) (name : Key)
    (justified : Justifies handler
      calls ledger (.deliver handler.discardChannel message)) :
    discipline.Ensures call key ticket (handler.discard name message) visit
      fun result after =>
        (∃ error, result = .error error ∧ after.Shows calls stored ledger) ∨
          (result = .ok () ∧ after.Shows calls stored ledger.discard) := by
  refine (accounts.ensures_deliver shows once justified).next
    fun taken middle step => ?_
  rcases step with ⟨error, rfl, shows⟩ | ⟨rfl, shows⟩
  · exact Ensures.next (accounts.ensures_unmoved shows once trivial)
      fun _ after shows => .inl ⟨error, rfl, shows⟩
  · exact .inr ⟨rfl, shows⟩

theorem ensures_discardAll {messages : List Message}
    (shows : visit.Shows calls stored ledger) (stale : ledger.isNew = false)
    (named : messages.map some = (ledger.waiting.drop ledger.offered).map
      fun call => (calls call).message?)
    (once : IsOnceOf ledger.brought (ledger.delivered ++
      (ledger.handed ++ ledger.waiting.drop ledger.offered))) (name : Key) :
    discipline.Ensures call key ticket (handler.discardAll name messages) visit
      fun _ after =>
        ∃ taken, after.Shows calls stored
          { ledger with
            offered := ledger.offered + taken
            handed := ledger.handed ++
              (ledger.waiting.drop ledger.offered).take taken } := by
  induction messages generalizing visit ledger with
  | nil => exact ⟨0, by simpa using shows⟩
  | cons message rest induction =>
      have before : IsOnceOf ledger.brought ledger.deliveries :=
        once.of_subperm ((List.sublist_append_left _ _).append_left _).subperm
      cases waits : ledger.waiting.drop ledger.offered with
      | nil => simp [waits] at named
      | cons holder others =>
          have next : ledger.offering? = some holder := by
            have first := congrArg List.head? waits
            rw [List.head?_drop] at first
            simpa [Ledger.offering?, stale] using first
          have later : ledger.waiting.drop (ledger.offered + 1) = others := by
            rw [← List.tail_drop, waits, List.tail_cons]
          rw [waits] at named once
          rw [List.map_cons, List.map_cons, List.cons.injEq] at named
          have justified : Justifies handler calls ledger
              (.deliver handler.discardChannel message) :=
            ⟨rfl, holder, next, named.1.symm⟩
          refine Ensures.next (accounts.ensures_discard shows before name
            justified) fun result middle step => ?_
          rcases step with ⟨error, rfl, shows⟩ | ⟨rfl, shows⟩
          · exact ⟨0, by simpa using shows⟩
          · have discarded : ledger.discard =
                { ledger with
                  offered := ledger.offered + 1
                  handed := ledger.handed ++ [holder] } := by
              simp [Ledger.discard, next]
            rw [discarded] at shows
            refine (induction shows stale ?_ ?_).imp ?_
            · rw [later]
              exact named.2
            · rw [later]
              simpa using once
            · rintro result after ⟨taken, shows⟩
              refine ⟨taken + 1, ?_⟩
              simpa [later, Nat.add_assoc, Nat.add_comm 1] using shows

theorem ensures_discardWaiting
    (opened : Opened handler calls key [] stored ledger)
    (shows : visit.Shows calls stored ledger)
    (stale : ledger.isNew = false) {messages : List Message}
    (named : messages.map some =
      ledger.waiting.map fun call => (calls call).message?) (name : Key) :
    discipline.Ensures call key ticket (handler.discardAll name messages) visit
      fun _ after =>
        ∃ offered handed, handed.Sublist ledger.waiting ∧
          after.Shows calls stored { ledger with offered, handed } := by
  have offersAll : ledger.waiting.drop ledger.offered = ledger.waiting := by
    rw [opened.offered, List.drop_zero]
  refine (accounts.ensures_discardAll shows stale ?_ ?_ name).imp
    fun _ after ⟨taken, shows⟩ => ⟨_, _, ?_, shows⟩
  · rw [offersAll]
    exact named
  · rw [offersAll, opened.handed]
    exact opened.isOnce_of_sublist (List.sublist_append_left _ _)
  · rw [offersAll, opened.handed]
    exact List.take_sublist _ _

theorem ensures_removeGroup (shows : visit.Shows calls stored ledger)
    (once : IsOnceOf ledger.brought ledger.deliveries) :
    discipline.Ensures call key ticket (Handler.removeGroup ticket key) visit
      fun removed after =>
        (∃ error, removed = .error error ∧
          after.Shows calls stored { ledger with hasFailed := true }) ∨
        (removed = .ok () ∧
          after.Shows calls none { ledger with waiting := [] }) := by
  refine (accounts.ensures_remove shows once).next fun answer middle step => ?_
  rcases step with ⟨error, rfl, shows⟩ | ⟨rfl, shows⟩
  · exact .inl ⟨error, rfl, shows⟩
  · refine Ensures.next (accounts.ensures_unmoved shows once rfl)
      fun _ after shows => ?_
    exact .inr ⟨rfl, shows⟩

theorem ensures_removal {α : Type}
    (opened : Opened handler calls key [] stored ledger)
    {given handed : List Nat}
    {offered : Nat} (sublist : handed.Sublist ledger.waiting)
    (shows : visit.Shows calls stored { ledger with given, offered, handed })
    {report : Except Error Unit → Call α}
    (asks : ∀ removed, Asks (MovesNothing ticket) (report removed)) :
    discipline.Ensures call key ticket ((Handler.removeGroup ticket key).bind
      report) visit fun _ after => Settles handler calls key after := by
  have once : IsOnceOf ledger.brought (ledger.delivered ++ handed) :=
    opened.isOnce_of_sublist (sublist.trans (List.sublist_append_left _ _))
  refine (accounts.ensures_removeGroup shows once).next
    fun removed middle step => ?_
  rcases step with ⟨error, rfl, shows⟩ | ⟨rfl, shows⟩
  · have settled := opened.settled_of_failed given offered sublist
    exact (accounts.ensures_of_asks shows settled.once (asks _)).imp
      fun _ after shows => ⟨_, _, shows, settled⟩
  · have settled :=
      opened.settled_of_cleared kept_none rfl given offered sublist
    exact (accounts.ensures_of_asks shows settled.once (asks _)).imp
      fun _ after shows => ⟨_, _, shows, settled⟩

theorem ensures_cleanUp (shows : visit.Shows calls stored ledger)
    (once : IsOnceOf ledger.brought ledger.deliveries)
    (kept : Kept handler key stored) (sameKey : group.key = key) :
    discipline.Ensures call key ticket (Handler.cleanUp ticket group) visit
      fun cleaned after =>
        (∃ error hasFailed, cleaned = .error error ∧
          after.Shows calls stored { ledger with hasFailed }) ∨
        (cleaned = .ok () ∧
          ∃ left, after.Shows calls left { ledger with waiting := [] } ∧
            Kept handler key left ∧ waiting left = []) := by
  unfold Handler.cleanUp
  split
  · rw [sameKey]
    refine (accounts.ensures_removeGroup shows once).imp
      fun cleaned after step => ?_
    rcases step with ⟨error, rfl, shows⟩ | ⟨rfl, shows⟩
    · exact .inl ⟨error, true, rfl, shows⟩
    · exact .inr ⟨rfl, none, shows, kept_none, rfl⟩
  · refine (accounts.ensures_mark shows once sameKey).next
      fun answer after step => ?_
    rcases step with ⟨error, rfl, shows⟩ | ⟨marked, time, rfl, shows⟩
    · exact .inl ⟨error, ledger.hasFailed, rfl, shows⟩
    · refine .inr ⟨rfl, _, shows, kept.map_markAll time, ?_⟩
      cases stored <;> simp [waiting]

theorem ensures_release (opened : Opened handler calls key [] stored ledger)
    (shows : visit.Shows calls stored ledger) (sameKey : group.key = key)
    (named : group.unmarked.map some = ledger.waiting.map
      fun call => (calls call).message?) (address : Option HeaderValue) :
    discipline.Ensures call key ticket (handler.release ticket key group
      address) visit fun _ after => Settles handler calls key after := by
  refine Ensures.next (accounts.ensures_process shows opened.isOnce named)
    fun outcome processed shows => ?_
  refine (accounts.ensures_cleanUp shows opened.isOnce opened.kept sameKey).next
    fun cleaned after step => ?_
  rcases step with ⟨error, hasFailed, rfl, shows⟩ |
    ⟨rfl, left, shows, kept, empty⟩
  · have settled := opened.settled ledger.waiting hasFailed
    cases outcome with
    | error failure =>
        exact Ensures.next (accounts.ensures_unmoved shows settled.once trivial)
          fun _ after shows => ⟨_, _, shows, settled⟩
    | ok outcome => exact ⟨_, _, shows, settled⟩
  · have settled := opened.settled_of_cleared kept empty ledger.waiting
        ledger.offered opened.handed_sublist
    cases outcome with
    | error failure =>
        exact Ensures.next (accounts.ensures_unmoved shows settled.once trivial)
          fun _ after shows => ⟨_, _, shows, settled⟩
    | ok outcome =>
        refine Ensures.next (accounts.ensures_unmoved shows settled.once
          trivial) fun _ logged shows => ?_
        refine (accounts.ensures_dispatch shows ?_ key outcome address).imp
          fun _ after shown => ?_
        · exact opened.isOnce_of_sublist
            (opened.replied_sublist.trans (List.sublist_append_left _ _))
        · rcases shown with shows | shows
          · exact ⟨_, _, shows, settled⟩
          · exact ⟨_, _, shows, opened.settled_of_cleared kept empty []
              ledger.offered opened.replied_sublist⟩

theorem ensures_refuse (opened : Opened handler calls key [] stored ledger)
    (shows : visit.Shows calls stored ledger) (stale : ledger.isNew = false)
    (named : group.unmarked.map some =
      ledger.waiting.map fun call => (calls call).message?) :
    discipline.Ensures call key ticket (handler.refuse ticket key group) visit
      fun _ after => Settles handler calls key after := by
  refine Ensures.next (accounts.ensures_unmoved shows opened.isOnce trivial)
    fun _ logged shows => ?_
  refine (accounts.ensures_discardWaiting opened shows stale named
    group.key).next fun discarded middle ⟨offered, handed, sublist, shows⟩ => ?_
  refine accounts.ensures_removal opened sublist shows fun removed => ?_
  split
  · trivial
  · exact ⟨trivial, fun _ => trivial⟩

theorem ensures_enroll (opened : Opened handler calls key [call] stored ledger)
    (shows : visit.Shows calls stored ledger)
    (brings : (calls call).message? = some message)
    (correlated : handler.correlation message = some key) :
    discipline.Ensures call key ticket (handler.enroll ticket key message) visit
      fun _ after => Settles handler calls key after := by
  refine Ensures.next (accounts.ensures_add shows opened.isOnce message)
    fun answer added step => ?_
  rcases step with
    ⟨error, rfl, shows⟩ | ⟨group, generation, time, rfl, rfl, shows⟩
  · exact ⟨_, _, shows, opened.settled ledger.given ledger.hasFailed⟩
  · have enlisted := opened.enlist brings correlated generation time
    refine Ensures.next (accounts.ensures_unmoved shows enlisted.isOnce rfl)
      fun _ retained shows => ?_
    refine Ensures.next (accounts.ensures_unmoved shows enlisted.isOnce trivial)
      fun _ logged shows => ?_
    refine Ensures.next (accounts.ensures_unmoved shows enlisted.isOnce trivial)
      fun isReady judged shows => ?_
    split
    · exact accounts.ensures_release enlisted shows
        (enlisted.kept _ rfl).sameKey enlisted.named _
    · split
      · exact accounts.ensures_refuse enlisted shows rfl enlisted.named
      · exact ⟨_, _, shows, enlisted.settled _ _⟩

theorem ensures_receive (opened : Opened handler calls key [call] stored ledger)
    (shows : visit.Shows calls stored ledger)
    (isOffered : ledger.offering? = some call)
    (brings : (calls call).message? = some message)
    (correlated : handler.correlation message = some key) :
    discipline.Ensures call key ticket (handler.receive ticket key message)
      visit fun _ after => Settles handler calls key after := by
  rw [Handler.receive_eq]
  refine (accounts.ensures_load shows opened.isOnce).next ?_
  rintro answer loaded ⟨shows, -⟩
  cases answer with
  | error error =>
      exact ⟨_, _, shows, opened.settled ledger.given ledger.hasFailed⟩
  | ok group =>
      refine ensures_place shows
        (accounts.ensures_unmoved shows opened.isOnce rfl) ?enrolls ?rejects
      case enrolls =>
        intro _ looked shows
        exact accounts.ensures_enroll opened shows brings correlated
      case rejects =>
        intro looked shows
        refine Ensures.next
          (accounts.ensures_unmoved shows opened.isOnce trivial)
          fun _ logged shows => ?_
        refine (accounts.ensures_discard shows opened.isOnce key
          ⟨rfl, call, isOffered, brings⟩).imp fun result after step => ?_
        rcases step with ⟨error, -, shows⟩ | ⟨-, shows⟩
        · exact ⟨_, _, shows, opened.settled ledger.given ledger.hasFailed⟩
        · have discarded : ledger.discard = { ledger with
              offered := ledger.offered + 1, handed := [call] } := by
            simp [Ledger.discard, isOffered, opened.handed]
          rw [discarded] at shows
          exact ⟨_, _, shows, opened.settled_of_spare _⟩

theorem ensures_conclude (opened : Opened handler calls key [] stored ledger)
    (shows : visit.Shows calls stored ledger) (stale : ledger.isNew = false)
    (named : group.unmarked.map some =
      ledger.waiting.map fun call => (calls call).message?) (isReady : Bool) :
    discipline.Ensures call key ticket (handler.conclude group isReady) visit
      fun _ after =>
        ∃ given offered handed, handed.Sublist ledger.waiting ∧
          after.Shows calls stored { ledger with given, offered, handed } := by
  unfold Handler.conclude
  split
  · refine Ensures.next (accounts.ensures_process shows opened.isOnce named)
      fun outcome processed shows => ?_
    cases outcome with
    | error error => exact ⟨_, _, _, opened.handed_sublist, shows⟩
    | ok outcome =>
        refine (accounts.ensures_dispatch shows ?_ _ outcome _).imp
          fun _ after shown => ?_
        · exact opened.isOnce_of_sublist
            (opened.replied_sublist.trans (List.sublist_append_left _ _))
        · rcases shown with shows | shows
          · exact ⟨_, _, _, opened.handed_sublist, shows⟩
          · exact ⟨_, _, _, opened.replied_sublist, shows⟩
  · refine (accounts.ensures_discardWaiting opened shows stale named
      group.key).imp fun _ after ⟨offered, handed, sublist, shows⟩ => ?_
    exact ⟨_, offered, handed, sublist, shows⟩

theorem ensures_finish (opened : Opened handler calls key [] stored ledger)
    (shows : visit.Shows calls stored ledger) (stale : ledger.isNew = false)
    (named : group.unmarked.map some =
      ledger.waiting.map fun call => (calls call).message?) :
    discipline.Ensures call key ticket (handler.finish ticket key group) visit
      fun _ after => Settles handler calls key after := by
  refine (accounts.ensures_of_asks shows opened.isOnce (asks_isDue
    (fun _ => trivial) handler group)).next fun isReady judged shows => ?_
  refine Ensures.next (accounts.ensures_unmoved shows opened.isOnce trivial)
    fun _ logged shows => ?_
  refine (accounts.ensures_conclude opened shows stale named isReady).next
    fun finished middle ⟨given, offered, handed, sublist, shows⟩ => ?_
  refine accounts.ensures_removal opened sublist shows fun removed => ?_
  split
  · trivial
  · exact ⟨trivial, fun _ => trivial⟩

theorem ensures_finishSeen (opened : Opened handler calls key [] stored ledger)
    (shows : visit.Shows calls stored ledger)
    (stale : ledger.isNew = false) {seen : Group} (sameKey : seen.key = key) :
    discipline.Ensures call key ticket (handler.finishSeen ticket seen) visit
      fun _ after => Settles handler calls key after := by
  have settled := opened.settled ledger.given ledger.hasFailed
  rw [Handler.finishSeen_eq, sameKey]
  refine (accounts.ensures_load shows opened.isOnce).next
    fun answer loaded ⟨shows, loads⟩ => ?_
  cases answer with
  | error error => exact ⟨_, _, shows, settled⟩
  | ok group =>
      obtain ⟨generation, time, held⟩ := loads group rfl
      refine ensures_finishFound shows
        (accounts.ensures_unmoved shows opened.isOnce rfl) ?leaves ?finishes
      case leaves =>
        intro looked event shows
        exact Ensures.next (accounts.ensures_unmoved shows opened.isOnce
          trivial) fun _ logged shows => ⟨_, _, shows, settled⟩
      case finishes =>
        intro _ looked shows
        rw [sameKey]
        refine accounts.ensures_finish opened shows stale ?_
        rw [held, waiting_getD_empty]
        exact opened.named

end Discipline.Accounts

def delivering (handler : Handler) (calls : Nat → Invocation) (capacity : Nat)
    (environment : Environment) : Discipline where
  capacity := capacity
  environment := environment
  enters call key :=
    ∀ message, (calls call).message? = some message →
      handler.correlation message = some key
  allows _ events request :=
    IsOnceOf (Ledger.ofEvents calls events).brought
      (Ledger.ofEvents calls events).deliveries ∧
      Justifies handler calls (Ledger.ofEvents calls events) request
  idle key view :=
    Settled handler calls key view.stored (Ledger.ofEvents calls view.events)
  ends _ _ _ := True

section Delivering

variable {capacity : Nat} {environment : Environment}

theorem delivering_accounts :
    (delivering handler calls capacity environment).Accounts
      handler calls key where
  allows _ _ once justified := ⟨once, justified⟩

theorem shows_enter (calls : Nat → Invocation) (own : List Event) (view : View)
    (call : Nat) (key : Key) :
    Visit.Shows calls view.stored ((Ledger.ofEvents calls view.events).enter
      call (calls call).message?.isSome) ⟨own, view.enter call key⟩ where
  stored := rfl
  ledger := Ledger.ofEvents_append calls view.events _

theorem Settles.leave (settles : Settles handler calls key visit)
    (result : Option Result) :
    Settled handler calls key (visit.view.leave call key result).stored
      (Ledger.ofEvents calls (visit.view.leave call key result).events) := by
  obtain ⟨stored, ledger, ⟨rfl, rfl⟩, settled⟩ := settles
  rw [View.leave, Ledger.ofEvents_append]
  exact settled

theorem delivering_forceComplete (brings : (calls call).message? = none)
    (seen : Group) (own : List Event) (rest : Except Error Bool → Call Result)
    (going : ∀ result own,
      (delivering handler calls capacity environment).Abides
        call .outside own (rest result)) :
    (delivering handler calls capacity environment).Abides call .outside own
      ((handler.forceComplete seen).bind rest) := by
  have enters :
      (delivering handler calls capacity environment).enters call seen.key := by
    intro message brought
    simp [brings] at brought
  apply abides_locked enters
  intro ticket view idle _ _
  have shows := shows_enter calls (own ++ [⟨call, none, .asked seen.key⟩] ++
    [⟨call, some seen.key, .entered⟩]) view call seen.key
  have opened := idle.enter call false nofun
  rw [brings] at shows
  refine (delivering_accounts.ensures_finishSeen opened shows rfl rfl).imp
    fun result after settles => ?_
  exact ⟨settles.leave _, going result _⟩

theorem delivering_handle (brings : (calls call).message? = some message) :
    (delivering handler calls capacity environment).Abides call .outside []
      ((Invocation.handle message).program handler) := by
  cases correlated : handler.correlation message with
  | none =>
      rw [program_handle_none correlated]
      exact abides_log (.done trivial)
  | some key =>
      have enters :
          (delivering handler calls capacity environment).enters call key := by
        intro other brought
        rw [brings] at brought
        rwa [← Option.some.inj brought]
      rw [program_handle_some correlated]
      apply abides_locked enters
      intro ticket view idle _ first
      have fresh : call ∉ (Ledger.ofEvents calls view.events).brought := by
        intro brought
        obtain ⟨event, member, rfl, -, -⟩ := Ledger.entered_of_brought brought
        have mine :
            event ∈ view.events.filter fun past => past.call = event.call :=
          List.mem_filter.mpr ⟨member, decide_eq_true rfl⟩
        rw [first] at mine
        simp at mine
      have shows := shows_enter calls ([⟨call, none, .asked key⟩] ++
        [⟨call, some key, .entered⟩]) view call key
      have opened := idle.enter call true fun _ => fresh
      rw [brings] at shows
      refine (delivering_accounts.ensures_receive opened shows ?_
        brings correlated).imp
        fun result after settles => ⟨settles.leave _, .done trivial⟩
      simp [Ledger.offering?, Ledger.enter]

theorem delivering_program (call : Nat) :
    (delivering handler calls capacity environment).Abides call .outside []
      ((calls call).program handler) := by
  cases invocation : calls call with
  | handle message => exact delivering_handle (by rw [invocation]; rfl)
  | forceComplete seen =>
      exact delivering_forceComplete (by rw [invocation]; rfl) seen [] _
        fun _ _ => .done trivial
  | expire timeout =>
      exact abides_sweep (delivering_forceComplete (by rw [invocation]; rfl))
        (fun _ _ => trivial) timeout []

end Delivering

theorem Coherent.isOnce {capacity : Nat} {environment : Environment}
    {system : System}
    (coherent : Coherent (delivering handler calls capacity environment) system)
    (key : Key) :
    IsOnceOf (Ledger.ofEvents calls (system.under key)).brought
      (Ledger.ofEvents calls (system.under key)).deliveries := by
  by_cases busy : ∃ call ticket rest,
    system.phase call = .inside key ticket rest
  · obtain ⟨call, ticket, rest, phase⟩ := busy
    obtain ⟨-, -, abides⟩ := (ready_inside_iff phase).mp (coherent.ready call)
    cases abides with
    | unlock left going =>
        have once := left.once
        rw [View.leave, Ledger.ofEvents_append] at once
        exact once
    | about isAbout allowed going => exact allowed.1
  · exact (coherent.idle_of_outside
      fun call ticket rest phase => busy ⟨call, ticket, rest, phase⟩).once

/-- However the calls of a handler interleave, and whatever the store fails to
do, a message that a call has delivered is delivered neither again by the same
call nor by a later one, unless the call has failed to remove the group; so no
message is delivered twice if no group has failed to be removed. What is
delivered are messages that calls have brought: a processed group has those that
are stored and unmarked, and a discarded message is the one that has just come
or the next of those. -/
theorem delivered_at_most_once (handler : Handler) (capacity : Nat)
    (environment : Environment) (calls : Nat → Invocation)
    (schedule : List Nat) :
    let system :=
      (System.start capacity fun call => (calls call).program handler).run
        environment schedule
    (∀ key, IsOnceOf (Ledger.ofEvents calls (system.under key)).brought
      (Ledger.ofEvents calls (system.under key)).deliveries) ∧
    (∀ key, (∀ event ∈ system.under key, event.failsRemoval = false) →
      (Ledger.tally calls (system.under key)).Nodup) ∧
    (∀ key, ∀ call ∈ (Ledger.ofEvents calls (system.under key)).brought,
      ∃ message, (calls call).message? = some message ∧
        handler.correlation message = some key) ∧
    ∀ earlier event request answer, earlier ++ [event] <+: system.trace →
      event.act = .answered request answer → ¬ IsAside request →
      ∃ key, event.key = some key ∧
        Justifies handler calls (Ledger.ofEvents calls
          (earlier.filter fun past => past.key = some key)) request := by
  intro system
  have coherent :
      Coherent (delivering handler calls capacity environment) system :=
    (Coherent.start (fun key => settled_start)
      fun call => delivering_program call).run schedule
  refine ⟨coherent.isOnce, fun key removes => ?_,
    fun key call brought => ?_, ?_⟩
  · rw [← Ledger.deliveries_ofEvents removes]
    exact (coherent.isOnce key).nodup
  · obtain ⟨event, member, rfl, entered, brings⟩ :=
      Ledger.entered_of_brought brought
    obtain ⟨member, sameKey⟩ := List.mem_filter.mp member
    obtain ⟨message, brings⟩ := Option.isSome_iff_exists.mp brings
    obtain ⟨name, found, enters⟩ := coherent.enters_of_entered member entered
    obtain rfl : name = key := by simpa [found] using sameKey
    exact ⟨message, brings, enters message brings⟩
  · intro earlier event request answer isPrefix act notAside
    have admitted := coherent.admitted earlier event isPrefix
    simp only [Discipline.Admits, act] at admitted
    cases found : event.key with
    | none =>
        rw [found] at admitted
        exact absurd admitted notAside
    | some key =>
        rw [found] at admitted
        exact ⟨key, rfl, admitted.2⟩

/-! A message is discarded by a call that cannot remove the group, and again by
the next. -/

def jammed (call turn : Nat) : Circumstances :=
  { faltering with
    fault := if call = 1 ∧
      turn = 7 then some (.internal "store remove failed") else none }

def finishedTwice : Nat → Invocation
  | 0 => .handle (numbered 0)
  | _ => .forceComplete (.empty ⟨"all"⟩ 0 0)

def unremoved : System :=
  (System.start 0 fun call => (finishedTwice call).program gatherer).run jammed
    (List.replicate 8 0 ++ List.replicate 9 1 ++ List.replicate 11 2)

theorem unremoved_discards_again :
    unremoved.result? 0 = some (.handled (.ok ())) ∧
      unremoved.result? 2 = some (.finished (.ok true)) ∧
      unremoved.discards gatherer.discardChannel = [numbered 0, numbered 0] ∧
      ¬ (Ledger.tally finishedTwice (unremoved.under ⟨"all"⟩)).Nodup := by
  refine ⟨rfl, rfl, rfl, ?_⟩
  have twice : Ledger.tally finishedTwice (unremoved.under ⟨"all"⟩) = [0, 0] :=
    rfl
  simp [twice]

end Collate.Interleaving
