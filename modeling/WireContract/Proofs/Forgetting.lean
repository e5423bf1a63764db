import WireContract.Proofs.Sessions

/-!
A channel forgets the entries that are used up whenever there is a new subscription, so that the positions of
the others change. Nothing of this is seen in a session. Main statement: `Session.channel_semantics`.
-/

namespace WireContract

namespace Channel

def append {η : Type} (channel : Channel η) (handler : η) (once : Bool) : Channel η :=
  { channel with subscriptions := channel.subscriptions ++ [⟨handler, once⟩] }

theorem live_eq_filter {η : Type} {channel : Channel η} {keep : Subscription η → Bool}
    (agrees : ∀ position subscription, channel.subscriptions[position]? = some subscription →
      isLive channel.spent (subscription, position) = keep subscription) :
    channel.live = channel.subscriptions.filter keep := by
  have kept : channel.subscriptions.zipIdx.filter (isLive channel.spent) =
      channel.subscriptions.zipIdx.filter (keep ∘ Prod.fst) := by
    apply List.filter_congr
    intro entry member
    exact agrees entry.2 entry.1 (List.mem_zipIdx_iff_getElem?.mp member)
  rw [live, kept, ← List.filter_map, List.zipIdx_map_fst]

end Channel

namespace Session

open Channel (claimed run_emitFrom_cons)
open Emission (once)

/-- Whether a subscription can still be called once all of `gone` have been. -/
def remains (gone : List Nat) (subscription : Subscription Nat) : Bool :=
  !(subscription.once && gone.contains subscription.handler)

/-- What is used up of a channel, by position, and what is used up by the numbers of the handlers are the
same; all that was forgotten is used up. -/
structure Tracks (forgotten : List Nat) (subscriptions : List (Subscription Nat))
    (spent whole : List Nat) : Prop where
  agrees : ∀ position subscription, subscriptions[position]? = some subscription →
    subscription.once = true → (position ∈ spent ↔ subscription.handler ∈ whole)
  forgotten : ∀ handler ∈ forgotten, handler ∈ whole

/-- Two actions come to the same, on states of two channels that track each other. -/
def Mirrors {τ α : Type} (tracks : List Nat → List Nat → Prop) (act other : Chain τ α) : Prop :=
  ∀ spent whole notes, tracks spent whole → ∀ result spent' later,
    (act.run spent).run notes = ((result, spent'), later) →
      ∃ whole', (other.run whole).run notes = ((result, whole'), later) ∧ tracks spent' whole'

section Mirrors

variable {ρ τ α β : Type} {tracks : List Nat → List Nat → Prop}

theorem mirrors_pure (result : α) : Mirrors tracks (pure result : Chain τ α) (pure result) := by
  intro spent whole notes related result spent' later ran
  cases ran
  exact ⟨whole, rfl, related⟩

theorem Mirrors.bind {act other : Chain τ α} {next further : α → Chain τ β}
    (first : Mirrors tracks act other) (second : ∀ result, Mirrors tracks (next result) (further result)) :
    Mirrors tracks (act >>= next) (other >>= further) := by
  intro spent whole notes related result spent' later ran
  rw [StateT.run_bind, StateT.run_bind] at ran ⊢
  rcases acted : (act.run spent).run notes with ⟨⟨middle, taken⟩, between⟩
  rw [acted] at ran
  obtain ⟨whole', isOther, related⟩ := first _ _ _ related _ _ _ acted
  rw [isOther]
  exact second middle _ _ _ related _ _ _ ran

theorem Mirrors.call {act other : Chain (Journal ρ) (Option ρ)} (mirrors : Mirrors tracks act other)
    (handler : Nat) : Mirrors tracks (Journal.call handler act) (Journal.call handler other) := by
  rintro spent whole ⟨turns, journal⟩ related result spent' later ran
  rw [Journal.run_call] at ran ⊢
  rcases acted : (act.run spent).run { journal with called := journal.called ++ [handler] } with
    ⟨⟨answer, taken⟩, between⟩
  rw [acted] at ran
  cases ran
  obtain ⟨whole', isOther, related⟩ := mirrors _ _ _ related _ _ _ acted
  rw [isOther]
  exact ⟨whole', rfl, related⟩

theorem Mirrors.inner {act other : Chain (List (Turn ρ) × Journal ρ) (Option ρ)}
    (mirrors : Mirrors tracks act other) (kinds : List Bool) :
    Mirrors tracks (Journal.inner kinds act) (Journal.inner kinds other) := by
  intro spent whole journal related result spent' later ran
  rw [Journal.run_inner] at ran ⊢
  rcases acted : (act.run spent).run ([], journal) with ⟨⟨answer, taken⟩, between⟩
  rw [acted] at ran
  cases ran
  obtain ⟨whole', isOther, related⟩ := mirrors _ _ _ related _ _ _ acted
  rw [isOther]
  exact ⟨whole', rfl, related⟩

end Mirrors

theorem getElem?_numbered (handler position : Nat) (kinds : List Bool) :
    (numbered handler kinds)[position]? =
      (kinds[position]?).map fun kind => ⟨handler + position, kind⟩ := by
  induction kinds generalizing handler position with
  | nil => simp [numbered]
  | cons kind rest ih =>
    cases position with
    | zero => rfl
    | succ position =>
      rw [numbered, List.getElem?_cons_succ, List.getElem?_cons_succ, ih]
      have next : handler + 1 + position = handler + (position + 1) := by omega
      rw [next]

theorem numbered_eq_map (kinds : List Bool) :
    numbered 0 kinds = (List.range kinds.length).map fun handler => ⟨handler, once kinds handler⟩ := by
  apply List.ext_getElem?
  intro position
  rw [getElem?_numbered, List.getElem?_map, Nat.zero_add]
  by_cases below : position < kinds.length
  · simp [once, below]
  · simp [below]

theorem nodup_handlers (kinds : List Bool) (keep : Subscription Nat → Bool) :
    (((numbered 0 kinds).filter keep).map Subscription.handler).Nodup := by
  have whole : ((numbered 0 kinds).map Subscription.handler).Nodup := by
    rw [numbered_eq_map, List.map_map]
    simpa [Function.comp_def] using List.nodup_range
  exact whole.sublist (List.filter_sublist.map _)

theorem Tracks.claimed {forgotten : List Nat} {subscriptions : List (Subscription Nat)}
    {spent whole : List Nat} (tracks : Tracks forgotten subscriptions spent whole)
    (distinct : (subscriptions.map Subscription.handler).Nodup) {position : Nat}
    {subscription : Subscription Nat} (isThere : subscriptions[position]? = some subscription) :
    claimed subscription.once position spent = none ∧
        claimed subscription.once subscription.handler whole = none ∨
      ∃ spent' whole', claimed subscription.once position spent = some spent' ∧
        claimed subscription.once subscription.handler whole = some whole' ∧
        Tracks forgotten subscriptions spent' whole' := by
  obtain ⟨handler, kind⟩ := subscription
  cases kind with
  | false => exact .inr ⟨spent, whole, rfl, rfl, tracks⟩
  | true =>
    have same := tracks.agrees position _ isThere rfl
    by_cases isSpent : position ∈ spent
    · exact .inl ⟨by simp [Channel.claimed, isSpent],
        by simp [Channel.claimed, same.mp isSpent]⟩
    · have isFree : handler ∉ whole := fun member => isSpent (same.mpr member)
      refine .inr ⟨position :: spent, handler :: whole, by simp [Channel.claimed, isSpent],
        by simp [Channel.claimed, isFree], ?_, ?_⟩
      · intro other subscription isOther isOnce
        have apart : other = position ↔ subscription.handler = handler := by
          constructor
          · rintro rfl
            obtain rfl := Option.some.inj (isThere.symm.trans isOther)
            rfl
          · intro sameHandler
            have inRange : other < (subscriptions.map Subscription.handler).length := by
              rw [List.length_map]
              exact (List.getElem?_eq_some_iff.mp isOther).1
            refine (List.getElem?_inj inRange distinct).mp ?_
            simp [isOther, isThere, sameHandler]
        rw [List.mem_cons, List.mem_cons, apart, tracks.agrees other subscription isOther isOnce]
      · intro other member
        exact .tail _ (tracks.forgotten other member)

/-- An emission on what remains of the entries comes to the same as one on all of them. -/
theorem mirrors_emitFrom {ρ τ : Type} {forgotten : List Nat} {subscriptions : List (Subscription Nat)}
    (distinct : (subscriptions.map Subscription.handler).Nodup)
    {call other : Nat → Chain τ (Option ρ)}
    (mirrors : ∀ handler, Mirrors (Tracks forgotten subscriptions) (call handler) (other handler))
    (handler : Nat) (kinds : List Bool) (front : List (Subscription Nat))
    (isWhole : subscriptions = front ++ (numbered handler kinds).filter (remains forgotten)) :
    Mirrors (Tracks forgotten subscriptions)
      (emitFrom claim call front.length ((numbered handler kinds).filter (remains forgotten)))
      (emitFrom claim other handler (numbered handler kinds)) := by
  induction kinds generalizing handler front with
  | nil => exact mirrors_pure none
  | cons kind rest ih =>
    intro spent whole notes tracks result spent' later ran
    rw [numbered, run_emitFrom_cons]
    rw [numbered, List.filter_cons] at isWhole ran
    cases kept : remains forgotten ⟨handler, kind⟩ with
    | true =>
      rw [kept, if_pos rfl] at isWhole ran
      rw [run_emitFrom_cons] at ran
      have isThere : subscriptions[front.length]? = some ⟨handler, kind⟩ := by
        simp [isWhole]
      have continued := ih (handler + 1) (front ++ [⟨handler, kind⟩])
        (by rw [isWhole, List.append_assoc, List.singleton_append])
      rw [List.length_append, List.length_singleton] at continued
      rcases tracks.claimed distinct isThere with ⟨isSpent, isSpent'⟩ | ⟨taken, taken', free, free', tracks⟩
      · simp only [isSpent] at ran
        simp only [isSpent']
        exact continued _ _ _ tracks _ _ _ ran
      · simp only [free] at ran
        simp only [free']
        rcases called : ((call handler).run taken).run notes with ⟨⟨answer, left⟩, middle⟩
        rw [called] at ran
        obtain ⟨left', called', tracks⟩ := mirrors handler _ _ _ tracks _ _ _ called
        rw [called']
        cases answer with
        | some answer =>
          cases ran
          exact ⟨left', rfl, tracks⟩
        | none => exact continued _ _ _ tracks _ _ _ ran
    | false =>
      rw [kept, if_neg Bool.false_ne_true] at isWhole ran
      obtain ⟨rfl, gone⟩ : kind = true ∧ handler ∈ forgotten := by simpa [remains] using kept
      have passed : claimed true handler whole = none := by
        simp [claimed, tracks.forgotten handler gone]
      simp only [passed]
      exact ih (handler + 1) front isWhole _ _ _ tracks _ _ _ ran

theorem mirrors_run {ρ : Type} {forgotten : List Nat} {kinds : List Bool}
    {subscriptions : List (Subscription Nat)}
    (isWhole : subscriptions = (numbered 0 kinds).filter (remains forgotten)) (conduct : Conduct ρ) :
    Mirrors (Tracks forgotten subscriptions) (conduct.run kinds subscriptions)
      (conduct.run kinds (numbered 0 kinds)) := by
  induction conduct with
  | answer given => exact mirrors_pure given
  | emit conduct next ofConduct ofNext =>
    have distinct := nodup_handlers kinds (remains forgotten)
    rw [← isWhole] at distinct
    have emitted := mirrors_emitFrom distinct (fun handler => (ofConduct handler).call handler) 0 kinds []
      isWhole
    rw [← isWhole] at emitted
    exact (emitted.inner kinds).bind ofNext

theorem Tracks.live_eq {channel : Channel Nat} {forgotten whole : List Nat} {kinds : List Bool}
    (isChannel : channel.subscriptions = (numbered 0 kinds).filter (remains forgotten))
    (tracks : Tracks forgotten channel.subscriptions channel.spent whole) :
    channel.live = (numbered 0 kinds).filter (remains whole) := by
  have agrees : ∀ position subscription, channel.subscriptions[position]? = some subscription →
      Channel.isLive channel.spent (subscription, position) = remains whole subscription := by
    intro position subscription isThere
    unfold Channel.isLive remains
    cases isOnce : subscription.once with
    | false => rfl
    | true => simp [tracks.agrees position subscription isThere isOnce]
  rw [Channel.live_eq_filter agrees, isChannel, List.filter_filter]
  apply List.filter_congr
  intro subscription _
  have wider : forgotten.contains subscription.handler = true →
      whole.contains subscription.handler = true := by
    simpa using tracks.forgotten subscription.handler
  unfold remains
  grind

theorem tracks_numbered (kinds : List Bool) (spent : List Nat) :
    Tracks [] (numbered 0 kinds) spent spent where
  agrees position subscription isThere _ := by
    rw [getElem?_numbered, Nat.zero_add] at isThere
    obtain ⟨kind, _, rfl⟩ := Option.map_eq_some_iff.mp isThere
    rfl
  forgotten _ member := nomatch member

theorem filter_remains_nil (subscriptions : List (Subscription Nat)) :
    subscriptions.filter (remains []) = subscriptions := by
  apply List.filter_eq_self.mpr
  simp [remains]

theorem Keeps.subscribe {ρ : Type} {kinds : List Bool} {spent : List Nat} {journal : Journal ρ}
    (keeps : Keeps kinds spent journal) (kind : Bool) : Keeps (kinds ++ [kind]) spent journal := by
  have longer : kinds.length ≤ (kinds ++ [kind]).length := by simp
  have earlier (handler : Nat) (below : handler < kinds.length) :
      once (kinds ++ [kind]) handler = once kinds handler := by
    simp [once, List.getElem?_append_left below]
  refine ⟨fun handler member => Nat.lt_of_lt_of_le (keeps.knownSpent handler member) longer,
    fun handler member => Nat.lt_of_lt_of_le (keeps.knownCalled handler member) longer,
    fun handler isOnce => ?_, fun handler isOnce => ?_, keeps.lawful⟩
  · by_cases below : handler < kinds.length
    · exact keeps.agrees handler (earlier handler below ▸ isOnce)
    · exact iff_of_false (fun member => below (keeps.knownSpent handler member))
        (fun member => below (keeps.knownCalled handler member))
  · by_cases below : handler < kinds.length
    · exact keeps.single handler (earlier handler below ▸ isOnce)
    · have uncalled : handler ∉ journal.called := fun member =>
        below (keeps.knownCalled handler member)
      simp [List.count_eq_zero.mpr uncalled]

variable {ρ : Type}

theorem emit_of_ran {session : Session ρ} {conduct : Nat → Conduct ρ} {result : Option ρ}
    {spent : List Nat} {turns : List (Turn ρ)} {later : Journal ρ}
    (ran : ((emitFrom claim (fun handler => Journal.call handler
      ((conduct handler).run session.kinds session.channel.subscriptions)) 0
      session.channel.subscriptions).run session.channel.spent).run ([], session.journal) =
        ((result, spent), (turns, later))) :
    session.emit conduct =
      ⟨{ session.channel with spent := spent }, session.kinds, later.close session.kinds turns result⟩ := by
  unfold emit Channel.emit
  simp only [StateT.run_bind, StateT.run_pure, ran]
  rfl

structure Sound (session : Session ρ) : Prop where
  isNumbered : session.channel.subscriptions = numbered 0 session.kinds
  keeps : Keeps session.kinds session.channel.spent session.journal

theorem Sound.start (stage : Stage) : (start stage : Session ρ).Sound where
  isNumbered := rfl
  keeps := ⟨by simp [Session.start, Channel.new], by simp [Session.start], by simp [Session.start, once],
    by simp [Session.start], by simp [Session.start]⟩

theorem Sound.step {session : Session ρ} (sound : session.Sound) (step : SessionStep ρ) :
    (session.step Channel.append step).Sound := by
  cases step with
  | subscribe kind =>
    refine ⟨?_, sound.keeps.subscribe kind⟩
    show session.channel.subscriptions ++ _ = numbered 0 (session.kinds ++ [kind])
    rw [sound.isNumbered, numbered_append, Nat.zero_add]
    rfl
  | emit conduct =>
    rcases ran : ((emitFrom claim (fun handler => Journal.call handler
      ((conduct handler).run session.kinds session.channel.subscriptions)) 0
      session.channel.subscriptions).run session.channel.spent).run ([], session.journal) with
      ⟨⟨result, spent⟩, turns, later⟩
    rw [Session.step, emit_of_ran ran]
    rw [sound.isNumbered] at ran
    obtain ⟨kept, new, isNew, follows⟩ := follows_emitFrom (fun handler => preserves_run (conduct handler))
      [] rfl sound.keeps ran
    obtain rfl : turns = new := isNew
    exact ⟨sound.isNumbered, kept.close follows⟩

theorem Sound.live_eq {session : Session ρ} (sound : session.Sound) :
    session.channel.live =
      (numbered 0 session.kinds).filter (remains session.channel.spent) := by
  have isWhole : session.channel.subscriptions =
      (numbered 0 session.kinds).filter (remains []) := by
    rw [filter_remains_nil]
    exact sound.isNumbered
  have tracks := tracks_numbered session.kinds session.channel.spent
  rw [← sound.isNumbered] at tracks
  exact tracks.live_eq isWhole

structure Follows (session whole : Session ρ) : Prop where
  kinds : session.kinds = whole.kinds
  journal : session.journal = whole.journal
  tracks : ∃ forgotten,
    session.channel.subscriptions = (numbered 0 session.kinds).filter (remains forgotten) ∧
      Tracks forgotten session.channel.subscriptions session.channel.spent whole.channel.spent

theorem Follows.start (stage : Stage) : (start stage : Session ρ).Follows (start stage) where
  kinds := rfl
  journal := rfl
  tracks := ⟨[], rfl, tracks_numbered [] []⟩

theorem Follows.live_eq {session whole : Session ρ} (follows : session.Follows whole)
    (sound : whole.Sound) : session.channel.live = whole.channel.live := by
  obtain ⟨forgotten, isChannel, tracks⟩ := follows.tracks
  rw [tracks.live_eq isChannel, sound.live_eq, follows.kinds]

theorem Follows.step {session whole : Session ρ} (sound : whole.Sound) (follows : session.Follows whole)
    (step : SessionStep ρ) :
    (session.step Channel.add step).Follows (whole.step Channel.append step) := by
  obtain ⟨forgotten, isChannel, tracks⟩ := follows.tracks
  cases step with
  | subscribe kind =>
    have isNew : (session.channel.add session.kinds.length kind).subscriptions =
        (numbered 0 (session.kinds ++ [kind])).filter (remains whole.channel.spent) := by
      have isFree : session.kinds.length ∉ whole.channel.spent := fun member =>
        Nat.lt_irrefl _ (follows.kinds ▸ sound.keeps.knownSpent _ member)
      show session.channel.live ++ _ = _
      rw [tracks.live_eq isChannel, numbered_append, List.filter_append, Nat.zero_add]
      simp [numbered, remains, isFree]
    refine ⟨congrArg (· ++ [kind]) follows.kinds, follows.journal, whole.channel.spent, isNew, ?_,
      fun _ => id⟩
    intro position subscription isThere isOnce
    have member := List.mem_of_getElem? isThere
    rw [Session.step, isNew] at member
    have free : subscription.handler ∉ whole.channel.spent := by
      simpa [remains, isOnce] using (List.mem_filter.mp member).2
    exact iff_of_false (List.not_mem_nil) free
  | emit conduct =>
    have distinct := nodup_handlers session.kinds (remains forgotten)
    rw [← isChannel] at distinct
    have mirrors := mirrors_emitFrom distinct
      (fun handler => (mirrors_run isChannel (conduct handler)).call handler) 0 session.kinds [] isChannel
    rw [← isChannel] at mirrors
    rcases ran : ((emitFrom claim (fun handler => Journal.call handler
      ((conduct handler).run session.kinds session.channel.subscriptions)) 0
      session.channel.subscriptions).run session.channel.spent).run ([], session.journal) with
      ⟨⟨result, spent⟩, turns, later⟩
    obtain ⟨whole', ran', tracks⟩ := mirrors _ _ _ tracks _ _ _ ran
    rw [follows.journal, follows.kinds, ← sound.isNumbered] at ran'
    rw [Session.step, Session.step, emit_of_ran ran, emit_of_ran ran']
    exact ⟨follows.kinds, congrArg (fun kinds => later.close kinds turns result) follows.kinds, forgotten,
      isChannel, tracks⟩

theorem Sound.run {session : Session ρ} (sound : session.Sound) (steps : List (SessionStep ρ)) :
    (steps.foldl (Session.step Channel.append) session).Sound := by
  induction steps generalizing session with
  | nil => exact sound
  | cons step rest ih => exact ih (sound.step step)

theorem Follows.run {session whole : Session ρ} (sound : whole.Sound) (follows : session.Follows whole)
    (steps : List (SessionStep ρ)) :
    (steps.foldl (Session.step Channel.add) session).Follows
      (steps.foldl (Session.step Channel.append) whole) := by
  induction steps generalizing session whole with
  | nil => exact follows
  | cons step rest ih => exact ih (sound.step step) (follows.step sound step)

def permanent (session : Session ρ) : List Nat :=
  (List.range session.kinds.length).filter fun handler => !once session.kinds handler

def uncalled (session : Session ρ) : List Nat :=
  (List.range session.kinds.length).filter fun handler =>
    once session.kinds handler && !session.journal.called.contains handler

theorem Sound.size_eq {session : Session ρ} (sound : session.Sound) :
    session.channel.size = session.permanent.length + session.uncalled.length := by
  have kept (handler : Nat) :
      remains session.channel.spent ⟨handler, once session.kinds handler⟩ =
        !(once session.kinds handler && session.journal.called.contains handler) := by
    cases isOnce : once session.kinds handler with
    | false => simp [remains]
    | true => simp [remains, sound.keeps.agrees handler isOnce]
  rw [Channel.size, sound.live_eq, numbered_eq_map, List.filter_map, List.length_map,
    List.length_eq_countP_add_countP fun handler => !once session.kinds handler, List.countP_filter,
    List.countP_filter, permanent, uncalled, ← List.countP_eq_length_filter,
    ← List.countP_eq_length_filter]
  congr 1 <;>
  · apply List.countP_congr
    intro handler _
    rw [Function.comp_apply, kept]
    cases once session.kinds handler <;> simp

/-- What a session on a channel comes to, after any steps. A handler for one call is called at most once.
Every emission, also one in the course of a call, is lawful. The size of the channel is the number of
handlers that are subscribed for good and of those for one call that were never called. And all of this is
as on a channel that forgets nothing. -/
theorem channel_semantics (stage : Stage) (steps : List (SessionStep ρ)) :
    let session := run Channel.add stage steps
    let whole := run Channel.append stage steps
    (∀ handler, once session.kinds handler = true → session.journal.called.count handler ≤ 1) ∧
    (∀ emission ∈ session.journal.emissions, emission.Lawful) ∧
    (session.channel.size = session.permanent.length + session.uncalled.length ∧
      (session.channel.isEmpty = true ↔ session.channel.size = 0)) ∧
    (session.journal = whole.journal ∧ session.channel.size = whole.channel.size ∧
      session.channel.isEmpty = whole.channel.isEmpty) := by
  intro session whole
  have sound : whole.Sound := (Sound.start stage).run steps
  have follows : session.Follows whole := (Follows.start stage).run (Sound.start stage) steps
  have sameSize : session.channel.size = whole.channel.size :=
    congrArg List.length (follows.live_eq sound)
  have counted : session.channel.size = session.permanent.length + session.uncalled.length := by
    rw [sameSize, sound.size_eq]
    simp only [permanent, uncalled, follows.kinds, follows.journal]
  refine ⟨?_, ?_, ⟨counted, beq_iff_eq⟩, follows.journal, sameSize, ?_⟩
  · rw [follows.kinds, follows.journal]
    exact sound.keeps.single
  · rw [follows.journal]
    exact sound.keeps.lawful
  · rw [Channel.isEmpty, Channel.isEmpty, sameSize]

/-- A handler for one call that emits again is passed over in its own emission. -/
example :
    let conduct : Nat → Conduct Nat
      | 0 => .emit (fun _ => .answer (some 7)) fun _ => .answer none
      | _ => .answer (some 7)
    (run Channel.add .check [.subscribe true, .subscribe false, .emit conduct]).journal.called =
      [0, 1, 1] := rfl

end Session
end WireContract
