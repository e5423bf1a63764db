/-!
Channels: ordered handlers of which some are called once only. An emission calls them in order until
one of them answers; a handler may emit again while it is being called.
-/

namespace WireContract

inductive Stage
  | compile
  | check
  deriving DecidableEq, Repr

namespace Stage

def name : Stage → String
  | .compile => "compile"
  | .check => "check"

def debugName : Stage → String
  | .compile => "Compile"
  | .check => "Check"

end Stage

structure Subscription (η : Type) where
  handler : η
  once : Bool

/-- Subscriptions in order, and the positions of those that were called and may not be called again. -/
structure Channel (η : Type) where
  stage : Stage
  subscriptions : List (Subscription η)
  spent : List Nat

abbrev Spending (m : Type → Type) := StateT (List Nat) m

def claim {m : Type → Type} [Monad m] (position : Nat) : Spending m Bool := do
  let spent ← get
  if spent.contains position then return false
  set (position :: spent)
  return true

/-- Calls the handlers in order until one answers. One that may be called once is claimed before the
call, and passed over if it was claimed before. -/
def emitFrom {η ρ : Type} {m : Type → Type} [Monad m] (claim : Nat → m Bool)
    (call : η → m (Option ρ)) (position : Nat) : List (Subscription η) → m (Option ρ)
  | [] => pure none
  | subscription :: rest => do
    let free ← if subscription.once then claim position else pure true
    if free then
      match ← call subscription.handler with
      | some answer => pure (some answer)
      | none => emitFrom claim call (position + 1) rest
    else emitFrom claim call (position + 1) rest

namespace Channel

variable {η ρ : Type}

def new (stage : Stage) : Channel η := ⟨stage, [], []⟩

def isLive (spent : List Nat) (entry : Subscription η × Nat) : Bool :=
  !(entry.1.once && spent.contains entry.2)

def live (channel : Channel η) : List (Subscription η) :=
  (channel.subscriptions.zipIdx.filter (isLive channel.spent)).map Prod.fst

def size (channel : Channel η) : Nat := channel.live.length

def isEmpty (channel : Channel η) : Bool := channel.size == 0

/-- Appends a subscription and forgets those that cannot be called any more. -/
def add (channel : Channel η) (handler : η) (once : Bool) : Channel η :=
  ⟨channel.stage, channel.live ++ [⟨handler, once⟩], []⟩

def subscribe (channel : Channel η) (handler : η) : Channel η := channel.add handler false

def subscribeOnce (channel : Channel η) (handler : η) : Channel η := channel.add handler true

def emit {m : Type → Type} [Monad m] (channel : Channel η) (call : η → Spending m (Option ρ)) :
    m (Option ρ × Channel η) := do
  let (answer, spent) ← (emitFrom claim call 0 channel.subscriptions).run channel.spent
  return (answer, { channel with spent := spent })

def sweep (channel : Channel η) : List η × Channel η :=
  let call (handler : η) : Spending (StateM (List η)) (Option Unit) := do
    let called ← getThe (List η)
    StateT.lift (set (handler :: called))
    return none
  let ((_, channel), called) := (channel.emit call).run []
  (called.reverse, channel)

def debug (channel : Channel η) : String :=
  "Channel \x7b stage: " ++ channel.stage.debugName ++ ", handlers: " ++ toString channel.size ++ " \x7d"

end Channel
end WireContract
