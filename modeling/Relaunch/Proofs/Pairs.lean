/-
  Two sessions side by side.

  A session on one host mirrors a session on another if both end in the same way: with values and hosts
  that belong together, or with the same fault and hosts that belong together (`Mirrors`).  Sessions
  that are built in the same way are compared step by step, with one rule for each way to build them.

  Where both sessions are the same and only the hosts differ, all that matters is a relation between
  the hosts.  A session `Respects` a relation if it does the same on hosts that are related, and leaves
  them related; it reads nothing then that the relation leaves open.
-/
import Relaunch.Proofs.Session

namespace Relaunch

variable {α α' β β' : Type}

/-! ## Sessions that end in the same way -/

/-- However the first session ends on its host, the second one ends in the same way on its own. -/
def Mirrors (first : Session α) (host : Host) (second : Session α') (host' : Host)
    (value : α → Host → α' → Host → Prop) (fault : Host → Host → Prop) : Prop :=
  Ends first host
    (fun a after => ∃ a' after', second host' = .ok a' after' ∧ value a after a' after')
    (fun f after => ∃ after', second host' = .error f after' ∧ fault after after')

namespace Mirrors

variable {first : Session α} {second : Session α'} {host host' : Host}
  {value : α → Host → α' → Host → Prop} {fault : Host → Host → Prop}

/-- The same session on the same host ends in the same way. -/
theorem same {session : Session α} {host : Host} {value : α → Host → Prop} {fault : Host → Prop}
    (h : Ends session host value fun _ => fault) :
    Mirrors session host session host
      (fun a after a' after' => a' = a ∧ after' = after ∧ value a after)
      (fun after after' => after' = after ∧ fault after) := by
  unfold Ends at h
  unfold Mirrors Ends
  cases hran : session host with
  | ok a after =>
    rw [hran] at h
    exact ⟨a, after, rfl, rfl, rfl, h⟩
  | error f after =>
    rw [hran] at h
    exact ⟨after, rfl, rfl, h⟩

/-- What is known of each session by itself may be enough to tell that they end in the same way. -/
theorem of_ends {known : α → Host → Prop} {failed : Fault → Host → Prop}
    {known' : α' → Host → Prop} {failed' : Fault → Host → Prop}
    (h : Ends first host known failed) (h' : Ends second host' known' failed')
    (onValue : ∀ a after, known a after →
      (∀ a' after', known' a' after' → value a after a' after') ∧
        ∀ f' after', ¬failed' f' after')
    (onFault : ∀ f after, failed f after →
      (∀ f' after', failed' f' after' → f' = f ∧ fault after after') ∧
        ∀ a' after', ¬known' a' after') :
    Mirrors first host second host' value fault := by
  refine Ends.imp h (fun a after ha => ?_) (fun f after hf => ?_)
  · rcases h'.cases with ⟨a', after', hran', ha'⟩ | ⟨f', after', -, hf'⟩
    · exact ⟨a', after', hran', (onValue a after ha).1 a' after' ha'⟩
    · exact absurd hf' ((onValue a after ha).2 f' after')
  · rcases h'.cases with ⟨a', after', -, ha'⟩ | ⟨f', after', hran', hf'⟩
    · exact absurd ha' ((onFault f after hf).2 a' after')
    · obtain ⟨rfl, hfault⟩ := (onFault f after hf).1 f' after' hf'
      exact ⟨after', hran', hfault⟩

/-- What is known of both ends may be weakened. -/
theorem imp {value' : α → Host → α' → Host → Prop} {fault' : Host → Host → Prop}
    (h : Mirrors first host second host' value fault)
    (onValue : ∀ a after a' after', value a after a' after' → value' a after a' after')
    (onFault : ∀ after after', fault after after' → fault' after after') :
    Mirrors first host second host' value' fault' := by
  refine Ends.imp h ?_ ?_
  · rintro a after ⟨a', after', hran, hvalue⟩
    exact ⟨a', after', hran, onValue a after a' after' hvalue⟩
  · rintro f after ⟨after', hran, hfault⟩
    exact ⟨after', hran, onFault after after' hfault⟩

/-- What holds of the hosts after a fault may be weakened on its own. -/
theorem imp_fault {fault' : Host → Host → Prop} (h : Mirrors first host second host' value fault)
    (onFault : ∀ after after', fault after after' → fault' after after') :
    Mirrors first host second host' value fault' :=
  h.imp (fun _ _ _ _ hvalue => hvalue) onFault

/-- Two sessions that mirror each other both come through, or break off with the same fault. -/
theorem cases (h : Mirrors first host second host' value fault) :
    (∃ a after a' after', first host = .ok a after ∧ second host' = .ok a' after' ∧
        value a after a' after') ∨
      ∃ f after after', first host = .error f after ∧ second host' = .error f after' ∧
        fault after after' := by
  rcases Ends.cases h with ⟨a, after, hran, a', after', hran', hvalue⟩ |
    ⟨f, after, hran, after', hran', hfault⟩
  · exact .inl ⟨a, after, a', after', hran, hran', hvalue⟩
  · exact .inr ⟨f, after, after', hran, hran', hfault⟩

theorem pure {a : α} {a' : α'} (h : value a host a' host') :
    Mirrors (Pure.pure a) host (Pure.pure a') host' value fault :=
  ⟨a', host', rfl, h⟩

theorem throw {f : Fault} (h : fault host host') :
    Mirrors (MonadExcept.throw f : Session α) host (MonadExcept.throw f : Session α') host'
      value fault :=
  ⟨host', rfl, h⟩

/-- What follows is compared on the hosts that the first steps left; a fault ends both. -/
theorem bind {next : α → Session β} {next' : α' → Session β'}
    {value' : β → Host → β' → Host → Prop} (h : Mirrors first host second host' value fault)
    (rest : ∀ a after a' after', value a after a' after' →
      Mirrors (next a) after (next' a') after' value' fault) :
    Mirrors (first >>= next) host (second >>= next') host' value' fault := by
  unfold Mirrors
  rw [ends_bind]
  refine Ends.imp h ?_ ?_
  · rintro a after ⟨a', after', hran, hvalue⟩
    rw [bind_of_ok hran]
    exact rest a after a' after' hvalue
  · rintro f after ⟨after', hran, hfault⟩
    exact ⟨after', bind_of_error hran, hfault⟩

/-- The handlers are compared on the hosts that the fault left, and they get the same fault. -/
theorem tryCatch {handler : Fault → Session α} {handler' : Fault → Session α'}
    {caught : Host → Host → Prop} (h : Mirrors first host second host' value caught)
    (rest : ∀ f after after', caught after after' →
      Mirrors (handler f) after (handler' f) after' value fault) :
    Mirrors (MonadExcept.tryCatch first handler) host (MonadExcept.tryCatch second handler') host'
      value fault := by
  unfold Mirrors
  rw [ends_tryCatch]
  refine Ends.imp h ?_ ?_
  · rintro a after ⟨a', after', hran, hvalue⟩
    exact ⟨a', after', tryCatch_of_ok hran _, hvalue⟩
  · rintro f after ⟨after', hran, hcaught⟩
    rw [tryCatch_of_error hran]
    exact rest f after after' hcaught

/-- The hosts may be read into the rest, which is then compared with both of them known. -/
theorem get {next : Host → Session α} {next' : Host → Session α'}
    (h : Mirrors (next host) host (next' host') host' value fault) :
    Mirrors (MonadState.get >>= next) host (MonadState.get >>= next') host' value fault := h

theorem set {next next' : Host} {value : PUnit → Host → PUnit → Host → Prop}
    (h : value ⟨⟩ next ⟨⟩ next') :
    Mirrors (MonadStateOf.set next : Session PUnit) host (MonadStateOf.set next' : Session PUnit)
      host' value fault :=
  ⟨⟨⟩, next', rfl, h⟩

/-- A step that both sessions begin with, on the same host, changes nothing about the comparison. -/
theorem bind_same {session : Session α} {next : α → Session β} {next' : α → Session β'}
    {value : β → Host → β' → Host → Prop} (broken : ∀ f after, session host = .error f after →
      fault after after)
    (rest : ∀ a after, session host = .ok a after →
      Mirrors (next a) after (next' a) after value fault) :
    Mirrors (session >>= next) host (session >>= next') host value fault := by
  unfold Mirrors
  rw [ends_bind, Ends]
  cases hran : session host with
  | ok a after =>
    rw [bind_of_ok hran]
    exact rest a after hran
  | error f after => exact ⟨after, bind_of_error hran, broken f after hran⟩

end Mirrors

/-! ## Relations that sessions respect -/

/-- On related hosts the session ends in the same way, and leaves related hosts. -/
def Respects (related : Host → Host → Prop) (session : Session α) : Prop :=
  ∀ host host', related host host' →
    Mirrors session host session host' (fun a after a' after' => a' = a ∧ related after after')
      related

namespace Respects

variable {related : Host → Host → Prop} {session : Session α}

theorem pure (a : α) : Respects related (Pure.pure a) :=
  fun _ _ h => Mirrors.pure ⟨rfl, h⟩

theorem throw (f : Fault) : Respects related (MonadExcept.throw f : Session α) :=
  fun _ _ h => Mirrors.throw h

/-- Nothing is done after a fault. -/
theorem throw_bind (f : Fault) (next : α → Session β) :
    Respects related ((MonadExcept.throw f : Session α) >>= next) :=
  fun _ host' h => ⟨host', rfl, h⟩

/-- The value is the same on both, so the rest may depend on it. -/
theorem bind {next : α → Session β} (first : Respects related session)
    (second : ∀ a, Respects related (next a)) : Respects related (session >>= next) := by
  intro host host' h
  refine (first host host' h).bind fun a after a' after' hvalue => ?_
  obtain ⟨rfl, hrelated⟩ := hvalue
  exact second a' after after' hrelated

theorem tryCatch {handler : Fault → Session α} (first : Respects related session)
    (second : ∀ f, Respects related (handler f)) :
    Respects related (MonadExcept.tryCatch session handler) :=
  fun host host' h => (first host host' h).tryCatch fun f => second f

/-- Reading the host is fine as long as what is done next is the same on related hosts. -/
theorem get {next : Host → Session α}
    (same : ∀ host host', related host host' → next host' = next host)
    (rest : ∀ host, Respects related (next host)) :
    Respects related (MonadState.get >>= next) := by
  intro host host' h
  refine Mirrors.get ?_
  rw [same host host' h]
  exact rest host host host' h

theorem modify {change : Host → Host}
    (keeps : ∀ host host', related host host' → related (change host) (change host')) :
    Respects related (modify change) :=
  fun host host' h => ⟨⟨⟩, change host', rfl, rfl, keeps host host' h⟩

/-- The host may be read to be changed, and to go on from what was read. -/
theorem get_set {change : Host → Host} {next : Host → Session α}
    (keeps : ∀ host host', related host host' → related (change host) (change host'))
    (same : ∀ host host', related host host' → next host' = next host)
    (rest : ∀ host, Respects related (next host)) :
    Respects related (MonadState.get >>= fun host =>
      MonadStateOf.set (change host) >>= fun _ => next host) := by
  intro host host' h
  refine Mirrors.get ?_
  rw [same host host' h]
  exact rest host (change host) (change host') (keeps host host' h)

/-- What is known of the value on either host may be used in the rest. -/
theorem bind_known {known : α → Prop} {next : α → Session β} (first : Respects related session)
    (value : ∀ host host', related host host' →
      Ends session host (fun a _ => known a) fun _ _ => True)
    (second : ∀ a, known a → Respects related (next a)) : Respects related (session >>= next) := by
  intro host host' h
  rcases (first host host' h).cases with
    ⟨a, after, a', after', hran, hran', rfl, hafter⟩ | ⟨f, after, after', hran, hran', hafter⟩
  · have hknown := (value host host' h).of_ok hran
    have hrest := second _ hknown after after' hafter
    rw [Mirrors, ends_bind, Ends, hran, bind_of_ok hran']
    exact hrest
  · rw [Mirrors, ends_bind, Ends, hran]
    exact ⟨after', bind_of_error hran', hafter⟩

/-- The last step is taken on both hosts, however the session ends. -/
theorem tryFinally {last : Session β} (first : Respects related session)
    (second : Respects related last) : Respects related (tryFinally session last) := by
  intro host host' h
  rcases (first host host' h).cases with
    ⟨a, after, _, after', hran, hran', rfl, hafter⟩ | ⟨f, after, after', hran, hran', hafter⟩
  · rw [Mirrors, Ends, tryFinally_of_ok hran, tryFinally_of_ok hran']
    exact (second.bind fun _ => .pure _) after after' hafter
  · rw [Mirrors, Ends, tryFinally_of_error hran, tryFinally_of_error hran']
    exact (second.bind fun _ => .throw f) after after' hafter

end Respects

end Relaunch
