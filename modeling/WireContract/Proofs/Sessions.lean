import WireContract.Rules.Validator

/-!
Sessions on a channel: subscriptions and emissions in any order, with handlers that emit again while they are
being called. The handlers are numbered in the order of their subscription. A session notes every call
and every emission, the nested ones included. Main statements: `Emission.Follows.lawful` and `preserves_run`.
-/

namespace WireContract

/-- What a handler does when it is called: it answers, or emits on its channel again and goes on with the
result. `conduct` says what the handlers do that the inner emission calls. -/
inductive Conduct (ρ : Type)
  | answer (given : Option ρ)
  | emit (conduct : Nat → Conduct ρ) (next : Option ρ → Conduct ρ)

structure Turn (ρ : Type) where
  handler : Nat
  /-- all calls of the session before this one -/
  before : List Nat
  answer : Option ρ

structure Emission (ρ : Type) where
  /-- of every handler that is subscribed, whether it may be called once only -/
  kinds : List Bool
  turns : List (Turn ρ)
  /-- all calls of the session up to the end of this emission -/
  after : List Nat
  result : Option ρ

structure Journal (ρ : Type) where
  called : List Nat
  emissions : List (Emission ρ)

namespace Journal

variable {ρ : Type}

/-- A call of a handler by an emission, with all that happens until the handler answers. -/
def call (handler : Nat) (act : Chain (Journal ρ) (Option ρ)) :
    Chain (List (Turn ρ) × Journal ρ) (Option ρ) := do
  let spent ← get
  let (turns, journal) ← getThe (List (Turn ρ) × Journal ρ)
  let ((answer, spent), later) :=
    (act.run spent).run { journal with called := journal.called ++ [handler] }
  set spent
  StateT.lift (set (turns ++ [Turn.mk handler journal.called answer], later))
  return answer

def close (journal : Journal ρ) (kinds : List Bool) (turns : List (Turn ρ)) (result : Option ρ) :
    Journal ρ :=
  { journal with emissions := journal.emissions ++ [⟨kinds, turns, journal.called, result⟩] }

def inner (kinds : List Bool) (act : Chain (List (Turn ρ) × Journal ρ) (Option ρ)) :
    Chain (Journal ρ) (Option ρ) := do
  let spent ← get
  let journal ← getThe (Journal ρ)
  let ((result, spent), (turns, later)) := (act.run spent).run ([], journal)
  set spent
  StateT.lift (set (later.close kinds turns result))
  return result

end Journal

def Conduct.run {ρ : Type} (kinds : List Bool) (subscriptions : List (Subscription Nat)) :
    Conduct ρ → Chain (Journal ρ) (Option ρ)
  | .answer given => pure given
  | .emit conduct next => do
    let result ← Journal.inner kinds
      (emitFrom claim (fun handler => Journal.call handler (run kinds subscriptions (conduct handler)))
        0 subscriptions)
    run kinds subscriptions (next result)

namespace Emission

variable {ρ : Type}

def once (kinds : List Bool) (handler : Nat) : Bool := (kinds[handler]?).getD false

def calledBefore (turns : List (Turn ρ)) (after : List Nat) (handler : Nat) : List Nat :=
  ((turns.find? fun turn => handler ≤ turn.handler).map Turn.before).getD after

def Reaches (turns : List (Turn ρ)) (handler : Nat) : Prop :=
  ∀ turn ∈ turns, turn.handler < handler → turn.answer = none

/-- What an emission has to do: it calls the subscribed handlers in order up to the first that answers, and
leaves out only those for one call that were called before. -/
structure Lawful (emission : Emission ρ) : Prop where
  ordered : (emission.turns.map Turn.handler).Pairwise (· < ·)
  complete : ∀ handler, handler ∈ emission.turns.map Turn.handler ↔
    handler < emission.kinds.length ∧ Reaches emission.turns handler ∧
      (once emission.kinds handler = true →
        handler ∉ calledBefore emission.turns emission.after handler)
  result : emission.result = emission.turns.findSome? Turn.answer

end Emission

inductive SessionStep (ρ : Type)
  | subscribe (once : Bool)
  | emit (conduct : Nat → Conduct ρ)

structure Session (ρ : Type) where
  channel : Channel Nat
  kinds : List Bool
  journal : Journal ρ

namespace Session

variable {ρ : Type}

def start (stage : Stage) : Session ρ := ⟨.new stage, [], ⟨[], []⟩⟩

def emit (session : Session ρ) (conduct : Nat → Conduct ρ) : Session ρ :=
  let subscriptions := session.channel.subscriptions
  let ((result, channel), (turns, journal)) :=
    (session.channel.emit fun handler =>
      Journal.call handler ((conduct handler).run session.kinds subscriptions)).run
      ([], session.journal)
  { session with channel := channel, journal := journal.close session.kinds turns result }

def step (add : Channel Nat → Nat → Bool → Channel Nat) (session : Session ρ) :
    SessionStep ρ → Session ρ
  | .subscribe once =>
    { session with
      channel := add session.channel session.kinds.length once
      kinds := session.kinds ++ [once] }
  | .emit conduct => session.emit conduct

def run (add : Channel Nat → Nat → Bool → Channel Nat) (stage : Stage)
    (steps : List (SessionStep ρ)) : Session ρ :=
  steps.foldl (step add) (start stage)

end Session

namespace Channel

def claimed (once : Bool) (position : Nat) (spent : List Nat) : Option (List Nat) :=
  if once then if position ∈ spent then none else some (position :: spent) else some spent

theorem run_claim {τ : Type} (position : Nat) (spent : List Nat) :
    (claim position : Chain τ Bool).run spent =
      pure (if position ∈ spent then (false, spent) else (true, position :: spent)) := by
  by_cases isSpent : position ∈ spent <;> simp [claim, isSpent]

theorem run_emitFrom_cons {η ρ τ : Type} (call : η → Chain τ (Option ρ)) (position : Nat)
    (subscription : Subscription η) (rest : List (Subscription η)) (spent : List Nat) (notes : τ) :
    ((emitFrom claim call position (subscription :: rest)).run spent).run notes =
      match claimed subscription.once position spent with
      | none => ((emitFrom claim call (position + 1) rest).run spent).run notes
      | some spent =>
        match ((call subscription.handler).run spent).run notes with
        | ((some answer, spent), notes) => ((some answer, spent), notes)
        | ((none, spent), notes) =>
          ((emitFrom claim call (position + 1) rest).run spent).run notes := by
  obtain ⟨handler, once⟩ := subscription
  cases once with
  | false =>
    simp only [emitFrom, claimed, Bool.false_eq_true, if_false, pure_bind, if_true, StateT.run_bind]
    rcases ((call handler).run spent).run notes with ⟨⟨answer, spent⟩, notes⟩
    cases answer <;> rfl
  | true =>
    simp only [emitFrom, claimed, if_true, StateT.run_bind, run_claim, pure_bind]
    by_cases isSpent : position ∈ spent
    · simp only [isSpent, if_true, Bool.false_eq_true, if_false]
    · simp only [isSpent, if_true, if_false, StateT.run_bind]
      rcases ((call handler).run (position :: spent)).run notes with ⟨⟨answer, spent⟩, notes⟩
      cases answer <;> rfl

end Channel

namespace Emission

variable {ρ : Type}

/-- The course of an emission from a position on: the calls before it in the session, its turns, its result
and the calls up to its end. -/
inductive Follows (kinds : List Bool) : Nat → List Nat → List (Turn ρ) → Option ρ → List Nat → Prop
  | done {position : Nat} {called : List Nat} (isEnd : kinds.length ≤ position) :
    Follows kinds position called [] none called
  | passed {position : Nat} {called : List Nat} {turns : List (Turn ρ)} {result : Option ρ}
      {after : List Nat} (isOnce : once kinds position = true) (gone : position ∈ called)
      (rest : Follows kinds (position + 1) called turns result after) :
    Follows kinds position called turns result after
  | answered {position : Nat} {called : List Nat} {answer : ρ} {after : List Nat}
      (isThere : position < kinds.length) (free : once kinds position = true → position ∉ called)
      (grows : called ++ [position] <+: after) :
    Follows kinds position called [⟨position, called, some answer⟩] (some answer) after
  | silent {position : Nat} {called middle : List Nat} {turns : List (Turn ρ)} {result : Option ρ}
      {after : List Nat} (isThere : position < kinds.length)
      (free : once kinds position = true → position ∉ called)
      (grows : called ++ [position] <+: middle)
      (rest : Follows kinds (position + 1) middle turns result after) :
    Follows kinds position called (⟨position, called, none⟩ :: turns) result after

variable {kinds : List Bool} {position : Nat} {called after : List Nat} {turns : List (Turn ρ)}
  {result : Option ρ}

theorem Follows.grows (follows : Follows kinds position called turns result after) :
    called <+: after := by
  induction follows with
  | done _ => exact List.prefix_refl _
  | passed _ _ _ ih => exact ih
  | answered _ _ grows => exact (List.prefix_append _ _).trans grows
  | silent _ _ grows _ ih => exact ((List.prefix_append _ _).trans grows).trans ih

theorem Follows.grows_before (follows : Follows kinds position called turns result after) :
    ∀ turn ∈ turns, called <+: turn.before := by
  induction follows with
  | done _ => simp
  | passed _ _ _ ih => exact ih
  | answered _ _ _ =>
    intro turn member
    obtain rfl := List.mem_singleton.mp member
    exact List.prefix_refl _
  | silent _ _ grows _ ih =>
    intro turn member
    rcases List.mem_cons.mp member with rfl | later
    · exact List.prefix_refl _
    · exact ((List.prefix_append _ _).trans grows).trans (ih turn later)

theorem Follows.from_position (follows : Follows kinds position called turns result after) :
    ∀ turn ∈ turns, position ≤ turn.handler := by
  induction follows with
  | done _ => simp
  | passed _ _ _ ih =>
    intro turn member
    exact Nat.le_of_succ_le (ih turn member)
  | answered _ _ _ => simp
  | silent _ _ _ _ ih =>
    intro turn member
    rcases List.mem_cons.mp member with rfl | later
    · exact Nat.le_refl _
    · exact Nat.le_of_succ_le (ih turn later)

theorem Follows.ordered (follows : Follows kinds position called turns result after) :
    (turns.map Turn.handler).Pairwise (· < ·) := by
  induction follows with
  | done _ => exact .nil
  | passed _ _ _ ih => exact ih
  | answered _ _ _ => simp
  | silent _ _ _ rest ih =>
    refine List.pairwise_cons.mpr ⟨?_, ih⟩
    intro handler member
    obtain ⟨turn, isTurn, rfl⟩ := List.mem_map.mp member
    exact rest.from_position turn isTurn

theorem Follows.result_eq (follows : Follows kinds position called turns result after) :
    result = turns.findSome? Turn.answer := by
  induction follows with
  | done _ => rfl
  | passed _ _ _ ih => exact ih
  | answered _ _ _ => rfl
  | silent _ _ _ _ ih => exact ih

theorem Follows.mem_calledBefore (follows : Follows kinds position called turns result after)
    {handler : Nat} (member : handler ∈ called) (other : Nat) :
    handler ∈ calledBefore turns after other := by
  unfold calledBefore
  cases found : turns.find? fun turn => other ≤ turn.handler with
  | none => exact follows.grows.subset member
  | some turn =>
    exact (follows.grows_before turn (List.mem_of_find?_eq_some found)).subset member

theorem Follows.complete (follows : Follows kinds position called turns result after) {handler : Nat}
    (behind : position ≤ handler) :
    handler ∈ turns.map Turn.handler ↔
      handler < kinds.length ∧ Reaches turns handler ∧
        (once kinds handler = true → handler ∉ calledBefore turns after handler) := by
  induction follows with
  | done isEnd =>
    constructor
    · intro member
      cases member
    · intro ⟨isThere, _⟩
      omega
  | @passed position called turns result after isOnce gone rest ih =>
    rcases Nat.eq_or_lt_of_le behind with rfl | behind
    · constructor
      · intro member
        obtain ⟨turn, isTurn, same⟩ := List.mem_map.mp member
        have later := rest.from_position turn isTurn
        omega
      · intro ⟨_, _, free⟩
        exact absurd (rest.mem_calledBefore gone position) (free isOnce)
    · exact ih behind
  | @answered position called answer after isThere free _ =>
    constructor
    · intro member
      obtain rfl := List.mem_singleton.mp member
      refine ⟨isThere, ?_, ?_⟩
      · intro turn isTurn less
        obtain rfl := List.mem_singleton.mp isTurn
        exact absurd less (Nat.lt_irrefl _)
      · simpa [calledBefore] using free
    · intro ⟨_, reaches, _⟩
      rcases Nat.eq_or_lt_of_le behind with rfl | behind
      · exact List.mem_singleton.mpr rfl
      · have silent := reaches _ (List.mem_singleton.mpr rfl) behind
        cases silent
  | @silent position called middle turns result after isThere free _ rest ih =>
    rcases Nat.eq_or_lt_of_le behind with rfl | behind
    · constructor
      · intro _
        refine ⟨isThere, ?_, ?_⟩
        · intro turn isTurn less
          rcases List.mem_cons.mp isTurn with rfl | later
          · exact absurd less (Nat.lt_irrefl _)
          · have := rest.from_position turn later
            omega
        · simpa [calledBefore] using free
      · intro _
        exact .head _
    · have apart : handler ≠ position := Nat.ne_of_gt behind
      have passesOver : calledBefore (⟨position, called, none⟩ :: turns) after handler =
          calledBefore turns after handler := by
        simp [calledBefore, Nat.not_le.mpr behind]
      have reaches : Reaches (⟨position, called, none⟩ :: turns) handler ↔ Reaches turns handler := by
        simp [Reaches]
      rw [passesOver, reaches, ← ih behind, List.map_cons, List.mem_cons]
      exact or_iff_right apart

theorem Follows.lawful (follows : Follows kinds 0 called turns result after) :
    Lawful ⟨kinds, turns, after, result⟩ where
  ordered := follows.ordered
  complete handler := follows.complete (Nat.zero_le handler)
  result := follows.result_eq

end Emission

theorem Journal.run_call {ρ : Type} (handler : Nat) (act : Chain (Journal ρ) (Option ρ))
    (spent : List Nat) (turns : List (Turn ρ)) (journal : Journal ρ) :
    ((call handler act).run spent).run (turns, journal) =
      let ran := (act.run spent).run { journal with called := journal.called ++ [handler] }
      (ran.1, (turns ++ [⟨handler, journal.called, ran.1.1⟩], ran.2)) :=
  rfl

theorem Journal.run_inner {ρ : Type} (kinds : List Bool)
    (act : Chain (List (Turn ρ) × Journal ρ) (Option ρ)) (spent : List Nat) (journal : Journal ρ) :
    ((inner kinds act).run spent).run journal =
      let ran := (act.run spent).run ([], journal)
      (ran.1, ran.2.2.close kinds ran.2.1 ran.1.1) :=
  rfl

namespace Session

open Channel (claimed run_emitFrom_cons)
open Emission (once)

def numbered (handler : Nat) : List Bool → List (Subscription Nat)
  | [] => []
  | once :: rest => ⟨handler, once⟩ :: numbered (handler + 1) rest

theorem numbered_append (handler : Nat) (front back : List Bool) :
    numbered handler (front ++ back) = numbered handler front ++ numbered (handler + front.length) back := by
  induction front generalizing handler with
  | nil => rfl
  | cons once rest ih =>
    rw [List.cons_append, numbered, ih, numbered, List.cons_append, List.length_cons, Nat.add_right_comm]
    rfl

/-- What holds throughout a session on a channel whose positions are the numbers of the handlers. -/
structure Keeps {ρ : Type} (kinds : List Bool) (spent : List Nat) (journal : Journal ρ) : Prop where
  knownSpent : ∀ handler ∈ spent, handler < kinds.length
  knownCalled : ∀ handler ∈ journal.called, handler < kinds.length
  /-- used up is what was called -/
  agrees : ∀ handler, once kinds handler = true → (handler ∈ spent ↔ handler ∈ journal.called)
  single : ∀ handler, once kinds handler = true → journal.called.count handler ≤ 1
  lawful : ∀ emission ∈ journal.emissions, emission.Lawful

def Preserves {ρ α : Type} (kinds : List Bool) (act : Chain (Journal ρ) α) : Prop :=
  ∀ spent journal result spent' later, Keeps kinds spent journal →
    (act.run spent).run journal = ((result, spent'), later) →
      Keeps kinds spent' later ∧ journal.called <+: later.called

variable {ρ : Type} {kinds : List Bool}

theorem Keeps.call {spent spent' : List Nat} {journal : Journal ρ} (keeps : Keeps kinds spent journal)
    {handler : Nat} (isThere : handler < kinds.length)
    (free : claimed (once kinds handler) handler spent = some spent') :
    Keeps kinds spent' { journal with called := journal.called ++ [handler] } := by
  have known : ∀ other ∈ journal.called ++ [handler], other < kinds.length := by
    intro other member
    rcases List.mem_append.mp member with earlier | last
    · exact keeps.knownCalled other earlier
    · obtain rfl := List.mem_singleton.mp last
      exact isThere
  cases isOnce : once kinds handler with
  | false =>
    obtain rfl : spent = spent' := by simpa [claimed, isOnce] using free
    have apart (other : Nat) (otherOnce : once kinds other = true) : other ≠ handler := by
      rintro rfl
      rw [isOnce] at otherOnce
      cases otherOnce
    refine ⟨keeps.knownSpent, known, fun other otherOnce => ?_, fun other otherOnce => ?_,
      keeps.lawful⟩
    · simp [keeps.agrees other otherOnce, apart other otherOnce]
    · rw [List.count_append, List.count_singleton, if_neg (by simpa using (apart other otherOnce).symm)]
      exact keeps.single other otherOnce
  | true =>
    have fresh : handler ∉ spent := by
      intro isSpent
      simp [claimed, isOnce, isSpent] at free
    obtain rfl : handler :: spent = spent' := by simpa [claimed, isOnce, fresh] using free
    have uncalled : handler ∉ journal.called := fun member =>
      fresh ((keeps.agrees handler isOnce).mpr member)
    refine ⟨?_, known, fun other otherOnce => ?_, fun other otherOnce => ?_, keeps.lawful⟩
    · intro other member
      rcases List.mem_cons.mp member with rfl | earlier
      · exact isThere
      · exact keeps.knownSpent other earlier
    · simp [keeps.agrees other otherOnce, or_comm]
    · rw [List.count_append, List.count_singleton]
      by_cases same : other = handler
      · subst same
        simp [List.count_eq_zero.mpr uncalled]
      · rw [if_neg (by simpa using Ne.symm same)]
        exact keeps.single other otherOnce

theorem follows_emitFrom {acts : Nat → Chain (Journal ρ) (Option ρ)}
    (preserves : ∀ handler, Preserves kinds (acts handler)) (front : List Bool) {rest : List Bool}
    (isKinds : kinds = front ++ rest) {spent spent' : List Nat} {turns turns' : List (Turn ρ)}
    {journal later : Journal ρ} {result : Option ρ} (keeps : Keeps kinds spent journal)
    (ran : ((emitFrom claim (fun handler => Journal.call handler (acts handler)) front.length
      (numbered front.length rest)).run spent).run (turns, journal) =
        ((result, spent'), (turns', later))) :
    Keeps kinds spent' later ∧ ∃ new, turns' = turns ++ new ∧
      Emission.Follows kinds front.length journal.called new result later.called := by
  induction rest generalizing front spent turns journal with
  | nil =>
    simp only [numbered, emitFrom] at ran
    obtain ⟨⟨rfl, rfl⟩, rfl, rfl⟩ : (result = none ∧ spent = spent') ∧ turns' = turns ∧ journal = later := by
      cases ran
      exact ⟨⟨rfl, rfl⟩, rfl, rfl⟩
    have isEnd : kinds.length ≤ front.length := by simp [isKinds]
    exact ⟨keeps, [], (List.append_nil _).symm, .done isEnd⟩
  | cons kind rest ih =>
    have isThere : front.length < kinds.length := by simp [isKinds]
    have isKind : once kinds front.length = kind := by simp [once, isKinds]
    have next : kinds = (front ++ [kind]) ++ rest := by simp [isKinds]
    have continued := @ih (front ++ [kind]) 
    rw [List.length_append, List.length_singleton] at continued
    rw [numbered, run_emitFrom_cons] at ran
    cases free : claimed kind front.length spent with
    | none =>
      simp only [free] at ran
      obtain ⟨kept, new, isNew, follows⟩ := continued next keeps ran
      have isOnce : kind = true ∧ front.length ∈ spent := by
        unfold claimed at free
        grind
      have once := isKind.trans isOnce.1
      exact ⟨kept, new, isNew, .passed once ((keeps.agrees _ once).mp isOnce.2) follows⟩
    | some taken =>
      have unspent : once kinds front.length = true → front.length ∉ journal.called := by
        intro isOnce member
        have isSpent := (keeps.agrees _ isOnce).mpr member
        simp [claimed, ← isKind, isOnce, isSpent] at free
      have called := keeps.call isThere (by rw [isKind]; exact free)
      simp only [free, Journal.run_call] at ran
      rcases acted : ((acts front.length).run taken).run
        { journal with called := journal.called ++ [front.length] } with ⟨⟨answer, spent''⟩, middle⟩
      rw [acted] at ran
      obtain ⟨kept, grows⟩ := preserves front.length _ _ _ _ _ called acted
      cases answer with
      | some answer =>
        cases ran
        exact ⟨kept, _, rfl, .answered isThere unspent grows⟩
      | none =>
        obtain ⟨kept, new, isNew, follows⟩ := continued next kept ran
        refine ⟨kept, _, ?_, .silent isThere unspent grows follows⟩
        rw [isNew, List.append_assoc, List.singleton_append]

theorem Keeps.close {spent : List Nat} {journal : Journal ρ} (keeps : Keeps kinds spent journal)
    {called : List Nat} {turns : List (Turn ρ)} {result : Option ρ}
    (follows : Emission.Follows kinds 0 called turns result journal.called) :
    Keeps kinds spent (journal.close kinds turns result) := by
  refine ⟨keeps.knownSpent, keeps.knownCalled, keeps.agrees, keeps.single, ?_⟩
  intro emission member
  rcases List.mem_append.mp member with earlier | last
  · exact keeps.lawful emission earlier
  · obtain rfl := List.mem_singleton.mp last
    exact follows.lawful

/-- Whatever a handler does, the channel is kept. -/
theorem preserves_run (conduct : Conduct ρ) :
    Preserves kinds (conduct.run kinds (numbered 0 kinds)) := by
  induction conduct with
  | answer given =>
    intro spent journal result spent' later keeps ran
    cases ran
    exact ⟨keeps, List.prefix_refl _⟩
  | emit conduct next ofConduct ofNext =>
    intro spent journal result spent' later keeps ran
    rw [Conduct.run, StateT.run_bind, StateT.run_bind, Journal.run_inner] at ran
    rcases emitted : ((emitFrom claim (fun handler =>
      Journal.call handler ((conduct handler).run kinds (numbered 0 kinds))) 0
      (numbered 0 kinds)).run spent).run ([], journal) with ⟨⟨inner, taken⟩, turns, middle⟩
    rw [emitted] at ran
    obtain ⟨kept, new, isNew, follows⟩ := follows_emitFrom ofConduct [] rfl keeps emitted
    obtain rfl : turns = new := isNew
    obtain ⟨kept, grows⟩ := ofNext inner _ _ _ _ _ (kept.close follows) ran
    exact ⟨kept, follows.grows.trans grows⟩

end Session
end WireContract
