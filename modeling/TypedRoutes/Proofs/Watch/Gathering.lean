import TypedRoutes.Proofs.Watch.Turn

namespace TypedRoutes

/-!
# Taking a batch among others

Others act on a session whenever they like: they send changes, end the stream, or ask for the end.  A
session looks at its queue change by change until nothing waits there, and what others do in the
meantime falls between two looks.  That comes to the same as if they had done it all before and the
batch had then been taken at once: a change goes to the end of the queue, which is reached later, and
neither the end of the stream nor a request for the end is looked at.
-/

theorem Batch.failures_append (changes more : List Change) :
    failures (changes ++ more) = failures changes ++ failures more :=
  List.filterMap_append

namespace Session

variable {session later : Session} {change : Change} {rest changes : List Change}
  {pending : Option Reload}

/-! ## What others do -/

/-- Something that others do to a session. -/
inductive Act where
  | send (change : Change)
  | endStream
  | close

def undergo (session : Session) : Act → Session
  | .send change => session.send change
  | .endStream => session.endStream
  | .close => session.close

/-- The changes that the queue of a session accepts when something is done to it. -/
def accepted (session : Session) : Act → List Change
  | .send change => if session.accepts then [change] else []
  | .endStream | .close => []

def acceptedAll (session : Session) : List Act → List Change
  | [] => []
  | act :: acts => session.accepted act ++ (session.undergo act).acceptedAll acts

/-- Others add to the queue, and they may end the stream or ask for the end; neither is taken back,
and nothing else of a session is theirs to change. -/
theorem undergo_eq (session : Session) (act : Act) :
    ∃ ended closing, session.undergo act =
        { session with queue := session.queue ++ session.accepted act, ended, closing } ∧
      (session.ended = true → ended = true) ∧ (session.closing = true → closing = true) := by
  cases act with
  | send change =>
      refine ⟨session.ended, session.closing, ?_, id, id⟩
      simp only [undergo, send, accepted]
      split
      · rfl
      · rw [List.append_nil]
  | endStream => exact ⟨true, session.closing, by rw [accepted, List.append_nil]; rfl, fun _ => rfl, id⟩
  | close => exact ⟨session.ended, true, by rw [accepted, List.append_nil]; rfl, id, fun _ => rfl⟩

theorem queue_undergo (session : Session) (act : Act) :
    (session.undergo act).queue = session.queue ++ session.accepted act := by
  rcases undergo_eq session act with ⟨_, _, same, -⟩
  rw [same]

/-- Whatever many others do comes down to the same. -/
theorem foldl_undergo_eq (session : Session) (acts : List Act) :
    ∃ ended closing, acts.foldl undergo session =
        { session with queue := session.queue ++ session.acceptedAll acts, ended, closing } ∧
      (session.ended = true → ended = true) ∧ (session.closing = true → closing = true) := by
  induction acts generalizing session with
  | nil => exact ⟨session.ended, session.closing, by rw [acceptedAll, List.append_nil]; rfl, id, id⟩
  | cons act acts ih =>
      rcases undergo_eq session act with ⟨ended, closing, same, keepsEnd, keepsRequest⟩
      rcases ih (session.undergo act) with ⟨ended', closing', sameAfter, keepsEnd', keepsRequest'⟩
      refine ⟨ended', closing', ?_, fun ends => keepsEnd' ?_, fun asked => keepsRequest' ?_⟩
      · rw [List.foldl_cons, sameAfter, acceptedAll, same, List.append_assoc]
      · rw [same]
        exact keepsEnd ends
      · rw [same]
        exact keepsRequest asked

/-- An accepted change waits at the end of the queue. -/
theorem queue_foldl_undergo (session : Session) (acts : List Act) :
    (acts.foldl undergo session).queue = session.queue ++ session.acceptedAll acts := by
  rcases foldl_undergo_eq session acts with ⟨_, _, same, -⟩
  rw [same]

/-! ## Change by change -/

/-- Take the change that has waited longest. -/
def takeFirst (session : Session) : Session :=
  match session.queue with
  | [] => session
  | change :: rest => { session with queue := rest }.acknowledge [change]

theorem takeFirst_of_cons (next : session.queue = change :: rest) :
    session.takeFirst = { session with queue := rest }.acknowledge [change] := by
  rw [takeFirst, next]

/-- Go on with what a batch asks for. -/
def conclude (session : Session) : Option Reload → Session
  | some reload => session.adopt reload
  | none => session

/-- A session takes changes until none waits, while others act on it.  What the changes ask for is
collected on the way, starting with what is pending already. -/
inductive Gathers : Session → Option Reload → List Act → List Change → Session → Prop where
  | empty {session : Session} {pending : Option Reload} (nothing : session.queue = []) :
      Gathers session pending [] [] (session.conclude pending)
  | takes {session later : Session} {pending : Option Reload} {acts : List Act} {change : Change}
      {rest changes : List Change} (next : session.queue = change :: rest)
      (more : Gathers session.takeFirst (Reload.followedBy pending change) acts changes later) :
      Gathers session pending acts (change :: changes) later
  | meets {session later : Session} {pending : Option Reload} {acts : List Act}
      {changes : List Change} (act : Act)
      (more : Gathers (session.undergo act) pending acts changes later) :
      Gathers session pending (act :: acts) changes later

/-! ## All at once -/

/-- Take all that waits, with something pending already. -/
def takeAll (session : Session) (pending : Option Reload) : Session :=
  ({ session with queue := [] }.acknowledge session.queue).conclude
    (session.queue.foldl Reload.followedBy pending)

theorem drain_eq_takeAll (session : Session) : session.drain = session.takeAll none := by
  unfold drain takeAll
  change _ = conclude _ (Batch.reload session.queue)
  cases Batch.reload session.queue <;> rfl

theorem acknowledge_nil (session : Session) : session.acknowledge [] = session := by
  simp [acknowledge, Batch.failures]

theorem takeAll_of_empty (nothing : session.queue = []) :
    session.takeAll pending = session.conclude pending := by
  have same : { session with queue := [] } = session := by rw [← nothing]
  rw [takeAll, nothing, same, acknowledge_nil]
  rfl

theorem takeAll_of_cons (next : session.queue = change :: rest) :
    session.takeAll pending = session.takeFirst.takeAll (Reload.followedBy pending change) := by
  have failures := Batch.failures_append [change] rest
  rw [List.singleton_append] at failures
  simp only [takeAll, takeFirst, next, List.foldl_cons, acknowledge, failures, List.length_cons,
    List.length_append, List.length_nil, List.map_append, List.append_assoc, Nat.add_assoc,
    Nat.add_comm 1, Nat.zero_add]

/-- Taking the first change and being acted on may change places. -/
theorem takeFirst_undergo (next : session.queue = change :: rest) (act : Act) :
    (session.undergo act).takeFirst = session.takeFirst.undergo act := by
  have nextAfter : (session.undergo act).queue = change :: (rest ++ session.accepted act) := by
    rw [queue_undergo, next, List.cons_append]
  rw [takeFirst_of_cons nextAfter, takeFirst_of_cons next]
  cases act with
  | send other =>
      -- A change in hand does not bear on whether another is accepted.
      have same : ({ session with queue := rest }.acknowledge [change]).accepts = session.accepts :=
        rfl
      rw [undergo, undergo, send, send, accepted, same]
      split
      · rfl
      · rw [List.append_nil]
  | endStream => simp [undergo, endStream, accepted, acknowledge]
  | close => simp [undergo, close, accepted, acknowledge]

theorem takeFirst_foldl_undergo (next : session.queue = change :: rest) (acts : List Act) :
    (acts.foldl undergo session).takeFirst = acts.foldl undergo session.takeFirst := by
  induction acts generalizing session rest with
  | nil => rfl
  | cons act acts ih =>
      have nextAfter : (session.undergo act).queue = change :: (rest ++ session.accepted act) := by
        rw [queue_undergo, next, List.cons_append]
      rw [List.foldl_cons, List.foldl_cons, ih nextAfter, takeFirst_undergo next]

/-- What is done while changes are taken might as well have been done before. -/
theorem Gathers.eq_takeAll {acts : List Act} (gathers : Gathers session pending acts changes later) :
    changes = (acts.foldl undergo session).queue ∧
      later = (acts.foldl undergo session).takeAll pending := by
  induction gathers with
  | empty nothing => exact ⟨nothing.symm, (takeAll_of_empty nothing).symm⟩
  | @takes session later pending acts change rest changes next _ ih =>
      have nextAfter : (acts.foldl undergo session).queue =
          change :: (rest ++ session.acceptedAll acts) := by
        rw [queue_foldl_undergo, next, List.cons_append]
      rcases ih with ⟨queue, isLater⟩
      rw [← takeFirst_foldl_undergo next] at queue isLater
      have rests : (acts.foldl undergo session).takeFirst.queue = rest ++ session.acceptedAll acts := by
        simp only [takeFirst, nextAfter, acknowledge]
      exact ⟨by rw [nextAfter, queue, rests], by rw [takeAll_of_cons nextAfter, isLater]⟩
  | meets act _ ih => exact ih

/-- Taking a batch among others is taking, at once, what waits after all that others have done. -/
theorem Gathers.eq_drain {acts : List Act} (gathers : Gathers session none acts changes later) :
    changes = (acts.foldl undergo session).queue ∧ later = (acts.foldl undergo session).drain := by
  rw [drain_eq_takeAll]
  exact gathers.eq_takeAll

theorem gathers_takeAll (session : Session) (pending : Option Reload) :
    Gathers session pending [] session.queue (session.takeAll pending) := by
  generalize waiting : session.queue = changes
  induction changes generalizing session pending with
  | nil =>
      rw [takeAll_of_empty waiting]
      exact .empty waiting
  | cons change rest ih =>
      rw [takeAll_of_cons waiting]
      exact .takes waiting (ih _ _ (by simp only [takeFirst, waiting, acknowledge]))

/-- With no one around, the queue is the batch. -/
theorem gathers_drain (session : Session) : Gathers session none [] session.queue session.drain := by
  rw [drain_eq_takeAll]
  exact gathers_takeAll session none

/-- What others do may all come before the first change is taken. -/
theorem gathers_foldl_undergo (session : Session) (acts : List Act) :
    Gathers session none acts (acts.foldl undergo session).queue (acts.foldl undergo session).drain := by
  induction acts generalizing session with
  | nil => exact gathers_drain session
  | cons act acts ih => exact .meets act (ih (session.undergo act))

end Session
end TypedRoutes
