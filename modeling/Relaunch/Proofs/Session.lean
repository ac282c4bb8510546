/-
  How sessions end.

  A session run on a host ends with a value or with a fault, and either way with the host as the work
  left it.  `Ends session host value fault` says what is true then: `value` of a value and its host,
  `fault` of a fault and its host.  No session runs forever, so this is everything that can be said
  about a session on one host.

  * one rule for every way to build a session (`ends_bind`, `ends_tryCatch`, ...), each an
    equivalence, so that rewriting with the rules takes a session apart step by step;
  * `Ends.imp` puts what is known of a step in the place of the step;
  * `Keeps` is the special case of a relation between the host before and the host after, however the
    session ends: for a reflexive and transitive relation it needs no more than one fact for each
    step.
-/
import Relaunch.Host.Basic

namespace Relaunch

variable {α β : Type}

/-- What is true once a session has ended on a host: `value` if it ended with a value, `fault` if it
ended with a fault. -/
def Ends (session : Session α) (host : Host) (value : α → Host → Prop)
    (fault : Fault → Host → Prop) : Prop :=
  match session host with
  | .ok a after => value a after
  | .error f after => fault f after

/-! ## One rule for each way to build a session -/

section Rules

variable {host : Host} {value : α → Host → Prop} {fault : Fault → Host → Prop}

@[simp] theorem ends_pure (a : α) :
    Ends (pure a) host value fault ↔ value a host := Iff.rfl

@[simp] theorem ends_throw (f : Fault) :
    Ends (throw f : Session α) host value fault ↔ fault f host := Iff.rfl

/-- What is true after both steps is true after the second, on the host that the first one left; a
fault of the first is the last word. -/
@[simp] theorem ends_bind (session : Session α) (next : α → Session β)
    {value : β → Host → Prop} :
    Ends (session >>= next) host value fault ↔
      Ends session host (fun a after => Ends (next a) after value fault) fault := by
  simp only [Ends, bind, EStateM.bind]
  cases session host <;> rfl

@[simp] theorem ends_map (f : α → β) (session : Session α) {value : β → Host → Prop} :
    Ends (f <$> session) host value fault ↔
      Ends session host (fun a after => value (f a) after) fault := by
  simp only [Ends, Functor.map, EStateM.map]
  cases session host <;> rfl

/-- The handler goes on from the host that the fault left: nothing is taken back. -/
@[simp] theorem ends_tryCatch (session : Session α) (handler : Fault → Session α) :
    Ends (tryCatch session handler) host value fault ↔
      Ends session host value (fun f after => Ends (handler f) after value fault) := by
  unfold Ends
  -- The handler of a session is the one of its monad, which has no equations of its own.
  show (match EStateM.tryCatch session handler host with
    | .ok a after => value a after
    | .error f after => fault f after) ↔ _
  delta EStateM.tryCatch
  cases session host <;> rfl

/-- However the session ends, the last step is taken, and a fault of its own would take over. -/
@[simp] theorem ends_tryFinally (session : Session α) (last : Session β) :
    Ends (tryFinally session last) host value fault ↔
      Ends session host (fun a mid => Ends last mid (fun _ => value a) fault)
        (fun f mid => Ends last mid (fun _ => fault f) fault) := by
  simp only [tryFinally, ends_map]
  simp only [Ends, tryFinally']
  cases session host with
  | ok a mid => simp only; cases last mid <;> rfl
  | error f mid => simp only; cases last mid <;> rfl

@[simp] theorem ends_get {value : Host → Host → Prop} :
    Ends get host value fault ↔ value host host := Iff.rfl

@[simp] theorem ends_set (next : Host) {value : PUnit → Host → Prop} :
    Ends (set next) host value fault ↔ value ⟨⟩ next := Iff.rfl

@[simp] theorem ends_modify (change : Host → Host) {value : PUnit → Host → Prop} :
    Ends (modify change) host value fault ↔ value ⟨⟩ (change host) := Iff.rfl

end Rules

/-! ## Running on from a step -/

section Steps

variable {σ : Type} {step : EStateM Fault σ α} {next : α → EStateM Fault σ β} {state after : σ}
  {a : α} {f : Fault}

/-- Past a step that came through, the run is that of the rest. -/
theorem bind_of_ok (h : step state = .ok a after) : (step >>= next) state = next a after := by
  simp only [bind, EStateM.bind, h]

/-- Nothing runs after a fault. -/
theorem bind_of_error (h : step state = .error f after) : (step >>= next) state = .error f after := by
  simp only [bind, EStateM.bind, h]

/-- A handler has no part in what came through. -/
theorem tryCatch_of_ok (h : step state = .ok a after) (handler : Fault → EStateM Fault σ α) :
    tryCatch step handler state = .ok a after := by
  show EStateM.tryCatch step handler state = _
  delta EStateM.tryCatch
  rw [h]

/-- A fault takes nothing back: the handler goes on from the state that it left. -/
theorem tryCatch_of_error (h : step state = .error f after)
    (handler : Fault → EStateM Fault σ α) : tryCatch step handler state = handler f after := by
  show EStateM.tryCatch step handler state = _
  delta EStateM.tryCatch
  rw [h]
  rfl

end Steps

/-- However a session ends, the last step runs on from the host that it left. -/
theorem tryFinally_of_ok {session : Session α} {host mid : Host} {a : α}
    (h : session host = .ok a mid) (last : Session β) :
    tryFinally session last host = (do let _ ← last; return a) mid := by
  simp only [tryFinally, tryFinally', Functor.map, EStateM.map, bind, EStateM.bind, h]
  cases last mid <;> rfl

/-- The last step is taken before a fault goes on. -/
theorem tryFinally_of_error {session : Session α} {host mid : Host} {f : Fault}
    (h : session host = .error f mid) (last : Session β) :
    tryFinally session last host = (do let _ ← last; throw f) mid := by
  simp only [tryFinally, tryFinally', Functor.map, EStateM.map, bind, EStateM.bind, h]
  cases last mid <;> rfl

/-! ## Using what is known of a step -/

section Known

variable {session : Session α} {host after : Host} {value value' : α → Host → Prop}
  {fault fault' : Fault → Host → Prop}

/-- What is known of a session may be weakened, for either way to end. -/
theorem Ends.imp (h : Ends session host value fault)
    (onValue : ∀ a after, value a after → value' a after)
    (onFault : ∀ f after, fault f after → fault' f after) :
    Ends session host value' fault' := by
  unfold Ends at h ⊢
  cases hs : session host with
  | ok a after => rw [hs] at h; exact onValue a after h
  | error f after => rw [hs] at h; exact onFault f after h

/-- What two proofs say of a session is true at once. -/
theorem Ends.and (h : Ends session host value fault) (h' : Ends session host value' fault') :
    Ends session host (fun a after => value a after ∧ value' a after)
      (fun f after => fault f after ∧ fault' f after) := by
  unfold Ends at h h' ⊢
  cases hs : session host with
  | ok a after => rw [hs] at h h'; exact ⟨h, h'⟩
  | error f after => rw [hs] at h h'; exact ⟨h, h'⟩

/-- A session that ended with a value. -/
theorem Ends.of_ok {a : α} (h : Ends session host value fault)
    (ended : session host = .ok a after) : value a after := by
  unfold Ends at h
  rw [ended] at h
  exact h

/-- A session that ended with a fault. -/
theorem Ends.of_error {f : Fault} (h : Ends session host value fault)
    (ended : session host = .error f after) : fault f after := by
  unfold Ends at h
  rw [ended] at h
  exact h

/-- A session ends in one of two ways, and `Ends` says what is true in the one that happened. -/
theorem Ends.cases (h : Ends session host value fault) :
    (∃ a after, session host = .ok a after ∧ value a after) ∨
      ∃ f after, session host = .error f after ∧ fault f after := by
  unfold Ends at h
  cases hs : session host with
  | ok a after => rw [hs] at h; exact Or.inl ⟨a, after, rfl, h⟩
  | error f after => rw [hs] at h; exact Or.inr ⟨f, after, rfl, h⟩

/-- A session that cannot end with a fault ends with a value. -/
theorem Ends.exists_ok (h : Ends session host value fun _ _ => False) :
    ∃ a after, session host = .ok a after ∧ value a after := by
  rcases h.cases with h | ⟨_, _, _, h⟩
  · exact h
  · exact h.elim

/-- The host that a session leaves, whichever way it ends. -/
def left (session : Session α) (host : Host) : Host :=
  match session host with
  | .ok _ after => after
  | .error _ after => after

/-- What is true however a session ends is true of the host that it leaves. -/
theorem Ends.left {holds : Host → Prop}
    (h : Ends session host (fun _ => holds) (fun _ => holds)) : holds (left session host) := by
  unfold Ends at h
  unfold Relaunch.left
  cases hs : session host with
  | ok a after => rw [hs] at h; exact h
  | error f after => rw [hs] at h; exact h

end Known

/-! ## Sessions on a given host -/

section Given

variable {γ : Type}

/-- What can be read of the value that a session ends with, if it ends with one. -/
def returned? (session : Session α) (host : Host) (read : α → Host → γ) : Option γ :=
  match session host with
  | .ok a after => some (read a after)
  | .error _ _ => none

/-- What can be read of the fault that a session ends with, if it ends with one. -/
def raised? (session : Session α) (host : Host) (read : Fault → Host → γ) : Option γ :=
  match session host with
  | .ok _ _ => none
  | .error f after => some (read f after)

/-- What a run returns can be evaluated, and then it is known how the session ends. -/
theorem Ends.of_returned? {session : Session α} {host : Host} (read : α → Host → γ) (c : γ)
    (h : returned? session host read = some c) :
    Ends session host (fun a after => read a after = c) (fun _ _ => False) := by
  unfold returned? at h
  unfold Ends
  cases hs : session host with
  | ok a after => rw [hs, Option.some.injEq] at h; exact h
  | error f after => rw [hs] at h; exact absurd h (by simp)

/-- A run of which something can be read is one that came through. -/
theorem exists_of_returned? {session : Session α} {host : Host} {read : α → Host → γ} {c : γ}
    (h : returned? session host read = some c) :
    ∃ a after, session host = .ok a after ∧ read a after = c :=
  (Ends.of_returned? read c h).exists_ok

/-- The same for the fault that a run breaks off with. -/
theorem Ends.of_raised? {session : Session α} {host : Host} (read : Fault → Host → γ) (c : γ)
    (h : raised? session host read = some c) :
    Ends session host (fun _ _ => False) (fun f after => read f after = c) := by
  unfold raised? at h
  unfold Ends
  cases hs : session host with
  | ok a after => rw [hs] at h; exact absurd h (by simp)
  | error f after => rw [hs, Option.some.injEq] at h; exact h

end Given

/-! ## Relations that sessions keep -/

/-- However the session ends, the relation holds between the host before and the host after. -/
def Keeps (related : Host → Host → Prop) (session : Session α) : Prop :=
  ∀ host, Ends session host (fun _ => related host) (fun _ => related host)

namespace Keeps

variable {related : Host → Host → Prop} {session : Session α}

/-- What keeps a relation keeps a weaker one. -/
theorem imp {weaker : Host → Host → Prop} (h : Keeps related session)
    (weakens : ∀ before after, related before after → weaker before after) :
    Keeps weaker session :=
  fun host => (h host).imp (fun _ after => weakens host after) (fun _ after => weakens host after)

section Refl

variable [Std.Refl related]

/-- Where nothing is done, a reflexive relation holds. -/
theorem pure (a : α) : Keeps related (Pure.pure a) := fun host => Std.Refl.refl host

theorem throw (f : Fault) : Keeps related (MonadExcept.throw f : Session α) :=
  fun host => Std.Refl.refl host

theorem get : Keeps related (MonadState.get : Session Host) := fun host => Std.Refl.refl host

end Refl

section Trans

variable [Trans related related related]

/-- One step after the other keeps what each of them keeps, since the relation is transitive. -/
theorem bind {next : α → Session β} (first : Keeps related session)
    (second : ∀ a, Keeps related (next a)) : Keeps related (session >>= next) := by
  intro host
  rw [ends_bind]
  refine (first host).imp (fun a mid hmid => ?_) (fun _ _ h => h)
  exact (second a mid).imp (fun _ _ h => Trans.trans hmid h) (fun _ _ h => Trans.trans hmid h)

/-- Whether the handler runs or not, what was done before it counts. -/
theorem tryCatch {handler : Fault → Session α} (first : Keeps related session)
    (second : ∀ f, Keeps related (handler f)) :
    Keeps related (MonadExcept.tryCatch session handler) := by
  intro host
  rw [ends_tryCatch]
  refine (first host).imp (fun _ _ h => h) (fun f mid hmid => ?_)
  exact (second f mid).imp (fun _ _ h => Trans.trans hmid h) (fun _ _ h => Trans.trans hmid h)

end Trans

end Keeps

end Relaunch
