import Mathlib.Data.List.Chain
import Mathlib.Data.List.Induction
import TypedRoutes.Watch.Debounce

namespace TypedRoutes

/-!
# Bursts and their release

A debounce hears of changes and is asked for releases, in any order, on a clock that never goes back.
It releases exactly if a change has come since the last release and it has been quiet since the latest
one.  All else follows from this: no burst is released early or twice, and whoever asks often enough
gets the release of a burst within one interval after the quiet period.
-/

namespace Debounce

/-- One use of a debounce. -/
inductive Call where
  | record (time : Nat)
  | ask (time : Nat)

def Call.time : Call → Nat
  | .record time => time
  | .ask time => time

/-- What one use of a debounce has come to. -/
inductive Event where
  | change (time : Nat)
  | answer (time : Nat) (released : Bool)
deriving DecidableEq

namespace Event

def time : Event → Nat
  | .change time => time
  | .answer time _ => time

def isChange : Event → Bool
  | .change _ => true
  | .answer _ _ => false

def isRelease : Event → Bool
  | .change _ => false
  | .answer _ released => released

/-- The time of a question. -/
def asked? : Event → Option Nat
  | .change _ => none
  | .answer time _ => some time

end Event

def use (debounce : Debounce) : Call → Debounce
  | .record time => debounce.record time
  | .ask time => (debounce.release time).2

def event (debounce : Debounce) : Call → Event
  | .record time => .change time
  | .ask time => .answer time (debounce.release time).1

/-- What a run of uses comes to, in order. -/
def trace : Debounce → List Call → List Event
  | _, [] => []
  | debounce, call :: rest => debounce.event call :: trace (debounce.use call) rest

/-- The debounce after a run of uses. -/
def after (debounce : Debounce) (calls : List Call) : Debounce := calls.foldl use debounce

variable {debounce : Debounce} {calls : List Call} {call : Call}
variable {trace earlier later : List Event} {quiet latest : Nat}

theorem trace_append (debounce : Debounce) (calls more : List Call) :
    debounce.trace (calls ++ more) = debounce.trace calls ++ (debounce.after calls).trace more := by
  induction calls generalizing debounce with
  | nil => rfl
  | cons call rest ih => exact congrArg _ (ih _)

theorem map_time_trace (debounce : Debounce) (calls : List Call) :
    (debounce.trace calls).map Event.time = calls.map Call.time := by
  induction calls generalizing debounce with
  | nil => rfl
  | cons call rest ih => cases call <;> exact congrArg _ (ih _)

/-- A trace that is cut belongs to a run that is cut. -/
theorem exists_of_trace_eq_append (split : debounce.trace calls = earlier ++ later) :
    ∃ first second, calls = first ++ second ∧ debounce.trace first = earlier ∧
      (debounce.after first).trace second = later := by
  induction earlier generalizing debounce calls with
  | nil => exact ⟨[], calls, rfl, rfl, split⟩
  | cons event earlier ih =>
      cases calls with
      | nil => cases split
      | cons call rest =>
          rcases List.cons.inj split with ⟨rfl, rest⟩
          rcases ih rest with ⟨first, second, rfl, rfl, rfl⟩
          exact ⟨call :: first, second, rfl, rfl, rfl⟩

theorem quiet_use (debounce : Debounce) (call : Call) : (debounce.use call).quiet = debounce.quiet := by
  cases call with
  | record time => rfl
  | ask time =>
      rw [use, release]
      split
      · split <;> rfl
      · rfl

theorem quiet_after (debounce : Debounce) (calls : List Call) :
    (debounce.after calls).quiet = debounce.quiet := by
  induction calls generalizing debounce with
  | nil => rfl
  | cons call rest ih => exact (ih _).trans (quiet_use debounce call)

/-! ## The change that waits -/

/-- The latest change of a trace waits for its release: since then there was no other and no
release. -/
def Waits (trace : List Event) (latest : Nat) : Prop :=
  ∃ earlier later, trace = earlier ++ .change latest :: later ∧
    ∀ event ∈ later, event.isChange = false ∧ event.isRelease = false

theorem not_waits_nil (latest : Nat) : ¬ Waits [] latest := by
  rintro ⟨earlier, later, empty, -⟩
  simp at empty

theorem waits_concat_change (trace : List Event) (time latest : Nat) :
    Waits (trace ++ [.change time]) latest ↔ latest = time := by
  constructor
  · rintro ⟨earlier, later, split, resting⟩
    rcases List.eq_nil_or_concat' later with rfl | ⟨between, final, rfl⟩
    · simpa using (List.append_inj' split rfl).2.symm
    · rw [← List.cons_append, ← List.append_assoc] at split
      cases (List.append_inj' split rfl).2
      exact absurd (resting (.change time) (by simp)).1 (by simp [Event.isChange])
  · rintro rfl
    exact ⟨trace, [], rfl, by simp⟩

theorem waits_concat_answer (trace : List Event) (time : Nat) (released : Bool) (latest : Nat) :
    Waits (trace ++ [.answer time released]) latest ↔ released = false ∧ Waits trace latest := by
  constructor
  · rintro ⟨earlier, later, split, resting⟩
    rcases List.eq_nil_or_concat' later with rfl | ⟨between, final, rfl⟩
    · cases (List.append_inj' split rfl).2
    · rw [← List.cons_append, ← List.append_assoc] at split
      rcases List.append_inj' split rfl with ⟨isBefore, same⟩
      cases same
      exact ⟨(resting (.answer time released) (by simp)).2, earlier, between, isBefore,
        fun event member => resting event (List.mem_append_left _ member)⟩
  · rintro ⟨rfl, earlier, between, rfl, resting⟩
    refine ⟨earlier, between ++ [.answer time false], by simp, fun event member => ?_⟩
    rcases List.mem_append.1 member with member | member
    · exact resting event member
    · rw [List.mem_singleton.1 member]
      exact ⟨rfl, rfl⟩

/-- What a debounce remembers is the change that waits. -/
theorem latest_after_eq_some_iff {latest : Nat} (fresh : debounce.latest = none)
    (calls : List Call) :
    (debounce.after calls).latest = some latest ↔ Waits (debounce.trace calls) latest := by
  induction calls using List.reverseRecOn generalizing latest with
  | nil => simp [after, Debounce.trace, fresh, not_waits_nil]
  | append_singleton calls call ih =>
      have last : debounce.after (calls ++ [call]) = (debounce.after calls).use call :=
        List.foldl_concat ..
      rw [trace_append, last]
      cases call with
      | record time =>
          simpa [use, record, Debounce.trace, event, eq_comm] using
            (waits_concat_change (debounce.trace calls) time latest).symm
      | ask time =>
          have asked : Waits (debounce.trace calls ++
              (debounce.after calls).trace [.ask time]) latest ↔ _ :=
            waits_concat_answer (debounce.trace calls) time _ latest
          rw [asked, ← ih, use, release]
          cases remembered : (debounce.after calls).latest with
          | none => simp [remembered]
          | some latest =>
              by_cases elapsed : (debounce.after calls).quiet ≤ time - latest
              · simp [elapsed]
              · simp [elapsed, remembered]

theorem release_eq_true_iff (debounce : Debounce) (now : Nat) :
    (debounce.release now).1 = true ↔
      ∃ latest, debounce.latest = some latest ∧ debounce.quiet ≤ now - latest := by
  rw [release]
  cases debounce.latest with
  | none => simp
  | some latest => by_cases elapsed : debounce.quiet ≤ now - latest <;> simp [elapsed]

/-! ## When there is a release -/

/-- Every question is answered by whether a change waits and it has been quiet since. -/
def Answered (quiet : Nat) (trace : List Event) : Prop :=
  ∀ {earlier time released later}, trace = earlier ++ .answer time released :: later →
    (released = true ↔ ∃ latest, Waits earlier latest ∧ latest + quiet ≤ time)

/-- The clock of a trace never goes back. -/
def Ordered (trace : List Event) : Prop := trace.Pairwise fun first second => first.time ≤ second.time

theorem ordered_trace (debounce : Debounce) (ordered : (calls.map Call.time).Pairwise (· ≤ ·)) :
    Ordered (debounce.trace calls) := by
  rwa [← map_time_trace debounce, List.pairwise_map] at ordered

theorem Ordered.le (ordered : Ordered (earlier ++ later)) {first second : Event}
    (before : first ∈ earlier) (behind : second ∈ later) : first.time ≤ second.time :=
  (List.pairwise_append.1 ordered).2.2 first before second behind

theorem Waits.mem (waits : Waits trace latest) : .change latest ∈ trace := by
  rcases waits with ⟨earlier, later, rfl, -⟩
  simp

/-- A change that waits is the latest of all. -/
theorem Waits.le (waits : Waits trace latest) (ordered : Ordered trace) {time : Nat}
    (member : .change time ∈ trace) : time ≤ latest := by
  rcases waits with ⟨earlier, later, rfl, resting⟩
  rcases List.mem_append.1 member with before | behind
  · exact ordered.le before (List.mem_cons_self ..)
  · rcases List.mem_cons.1 behind with same | behind
    · exact (Event.change.inj same).le
    · exact absurd (resting _ behind).1 (by simp [Event.isChange])

theorem answered_trace {debounce : Debounce} (fresh : debounce.latest = none)
    (ordered : Ordered (debounce.trace calls)) : Answered debounce.quiet (debounce.trace calls) := by
  intro earlier time released later split
  rcases exists_of_trace_eq_append split with ⟨first, second, rfl, rfl, answers⟩
  cases second with
  | nil => cases answers
  | cons call rest =>
      cases call with
      | record time => cases (List.cons.inj answers).1
      | ask now =>
          cases (List.cons.inj answers).1
          rw [release_eq_true_iff, quiet_after]
          rw [split] at ordered
          refine exists_congr fun latest => ?_
          rw [latest_after_eq_some_iff fresh]
          refine and_congr_right fun waits => ?_
          have past : latest ≤ time := ordered.le waits.mem (List.mem_cons_self ..)
          omega

/-! ## What follows -/

/-- Between two releases there is a change. -/
theorem Answered.exists_change (answered : Answered quiet trace) {first second : Nat}
    {middle : List Event}
    (split : trace = earlier ++ .answer first true :: (middle ++ .answer second true :: later)) :
    ∃ time, .change time ∈ middle := by
  have splitSecond : trace =
      (earlier ++ .answer first true :: middle) ++ .answer second true :: later := by simp [split]
  rcases (answered splitSecond).1 rfl with ⟨latest, ⟨before, between, same, resting⟩, -⟩
  rcases List.append_eq_append_iff.1 same with ⟨more, -, rest⟩ | ⟨more, -, rest⟩
  · cases more with
    | nil => cases (List.cons.inj rest).1
    | cons event more =>
        rw [List.cons_append] at rest
        exact ⟨latest, by simp [(List.cons.inj rest).2]⟩
  · cases more with
    | nil => cases (List.cons.inj rest).1
    | cons event more =>
        -- The first release would stand behind the change that waits.
        rw [List.cons_append] at rest
        have member : .answer first true ∈ between := by simp [(List.cons.inj rest).2]
        exact absurd (resting _ member).2 (by simp [Event.isRelease])

/-- No release comes before it has been quiet since every earlier change. -/
theorem Answered.not_early (answered : Answered quiet trace) (ordered : Ordered trace) {time : Nat}
    (split : trace = earlier ++ .answer time true :: later) {changed : Nat}
    (member : .change changed ∈ earlier) : changed + quiet ≤ time := by
  rcases (answered split).1 rfl with ⟨latest, waits, elapsed⟩
  rw [split] at ordered
  have latest := waits.le (List.pairwise_append.1 ordered).1 member
  omega

/-- Each release has a change of its own, and so has a change that waits. -/
theorem Answered.countP_lt_or_le (answered : Answered quiet trace) :
    trace.countP Event.isRelease ≤ trace.countP Event.isChange ∧
      ((∃ latest, Waits trace latest) →
        trace.countP Event.isRelease < trace.countP Event.isChange) := by
  induction trace using List.reverseRecOn with
  | nil => exact ⟨le_rfl, fun ⟨latest, waits⟩ => (not_waits_nil latest waits).elim⟩
  | append_singleton trace event ih =>
      have before : Answered quiet trace := fun split => answered (by rw [split, List.append_assoc]; rfl)
      rcases ih before with ⟨le, lt⟩
      rw [List.countP_append, List.countP_append]
      cases event with
      | change time =>
          simp only [List.countP_cons, List.countP_nil, Event.isRelease, Event.isChange]
          exact ⟨by simpa using le.trans (Nat.le_succ _), fun _ => by simpa using Nat.lt_succ_of_le le⟩
      | answer time released =>
          have last := answered rfl
          cases released with
          | false =>
              simpa [List.countP_cons, Event.isRelease, Event.isChange, waits_concat_answer]
                using And.intro le lt
          | true =>
              rcases last.1 rfl with ⟨latest, waits, -⟩
              have spare := lt ⟨latest, waits⟩
              simp [List.countP_cons, Event.isRelease, Event.isChange, waits_concat_answer]
              omega

/-! ## Asking often enough -/

/-- Some questions in a row follow each other within an interval, from a time or before it to after
another time. -/
def AskedThrough (interval start finish : Nat) (trace : List Event) : Prop :=
  ∃ times, times <:+: trace.filterMap Event.asked? ∧
    times.IsChain (fun first second => second ≤ first + interval) ∧
    (∃ time ∈ times, time ≤ start) ∧ ∃ time ∈ times, finish < time

/-- Steps of bounded length do not pass over an interval of that length. -/
theorem exists_mem_interval {interval bound first : Nat} {times : List Nat}
    (chain : (first :: times).IsChain fun first second => second ≤ first + interval)
    (start : first ≤ bound) {last : Nat} (member : last ∈ times) (elapsed : bound < last) :
    ∃ time ∈ times, bound < time ∧ time ≤ bound + interval := by
  induction times generalizing first with
  | nil => cases member
  | cons next times ih =>
      rw [List.isChain_cons_cons] at chain
      by_cases passed : bound < next
      · exact ⟨next, List.mem_cons_self .., passed, by omega⟩
      · have behind : last ∈ times := by
          rcases List.mem_cons.1 member with rfl | behind
          · exact absurd elapsed passed
          · exact behind
        rcases ih chain.2 (by omega) behind with ⟨time, member, inside⟩
        exact ⟨time, List.mem_cons_of_mem _ member, inside⟩

/-- Whoever asks often enough asks within one interval after the start. -/
theorem AskedThrough.exists_answer {interval start : Nat} (ordered : Ordered trace)
    (asked : AskedThrough interval start (start + interval) trace) :
    ∃ time released, .answer time released ∈ trace ∧ start < time ∧ time ≤ start + interval := by
  rcases asked with ⟨times, within, chain, ⟨first, memberFirst, early⟩, last, memberLast, late⟩
  have increasing : times.Pairwise (· ≤ ·) := by
    refine List.Pairwise.sublist within.sublist (List.pairwise_filterMap.2 (ordered.imp ?_))
    rintro (_ | ⟨time, _⟩) (_ | ⟨other, _⟩) le t asksFirst u asksSecond
    all_goals simp_all [Event.asked?, Event.time]
  rcases List.append_of_mem memberFirst with ⟨before, behind, rfl⟩
  -- A later time cannot stand before an earlier one.
  have memberBehind : last ∈ behind := by
    rcases List.mem_append.1 memberLast with member | member
    · have := (List.pairwise_append.1 increasing).2.2 last member first (List.mem_cons_self ..)
      omega
    · rcases List.mem_cons.1 member with rfl | member
      · omega
      · exact member
  rcases exists_mem_interval (List.isChain_append.1 chain).2.1 early memberBehind (by omega) with
    ⟨time, member, inside⟩
  have asks := within.subset (List.mem_append_right before (List.mem_cons_of_mem _ member))
  rcases List.mem_filterMap.1 asks with ⟨event, memberEvent, isTime⟩
  cases event with
  | change _ => cases isTime
  | answer _ released =>
      cases isTime
      exact ⟨time, released, memberEvent, inside⟩

/-- After the last change, a question is answered by a release, or one before it was, as soon as it
has been quiet. -/
theorem Answered.exists_first_release (answered : Answered quiet trace) (ordered : Ordered trace)
    (split : trace = earlier ++ .change latest :: later)
    (lastChange : ∀ event ∈ later, event.isChange = false) {time : Nat} {released : Bool}
    (member : .answer time released ∈ later) (elapsed : latest + quiet ≤ time) :
    ∃ before first behind, later = before ++ .answer first true :: behind ∧
      (∀ event ∈ before, event.isRelease = false) ∧ first ≤ time := by
  rcases List.append_of_mem member with ⟨before, behind, rfl⟩
  cases found : before.find? Event.isRelease with
  | some event =>
      rcases List.find?_eq_some_iff_append.1 found with ⟨releases, start, rest, rfl, none⟩
      cases event with
      | change _ => cases releases
      | answer first isRelease =>
          cases isRelease with
          | false => cases releases
          | true =>
              have inOrder := (List.pairwise_append.1 (split ▸ ordered)).2.1.of_cons
              have le : first ≤ time := (List.pairwise_append.1 inOrder).2.2
                (.answer first true) (by simp) (.answer time released) (List.mem_cons_self ..)
              exact ⟨start, first, rest ++ .answer time released :: behind, by simp,
                fun event member => by simpa using none event member, le⟩
  | none =>
      have none : ∀ event ∈ before, event.isRelease = false := by
        simpa using List.find?_eq_none.1 found
      have waits : Waits (earlier ++ .change latest :: before) latest :=
        ⟨earlier, before, rfl, fun event member =>
          ⟨lastChange event (List.mem_append_left _ member), none event member⟩⟩
      have splitAnswer : trace =
          (earlier ++ .change latest :: before) ++ .answer time released :: behind := by simp [split]
      rw [(answered splitAnswer).2 ⟨latest, waits, elapsed⟩]
      exact ⟨before, time, behind, rfl, none, le_rfl⟩

/-! ## Runs -/

/-- What a debounce does with the bursts of a run. -/
structure ReleasesBursts (quiet interval : Nat) (trace : List Event) : Prop where
  /-- A question is answered by a release exactly if some change has come since the last release
  and the latest one is at least the quiet period ago. -/
  answered : Answered quiet trace
  between : ∀ {earlier first middle second later},
    trace = earlier ++ .answer first true :: (middle ++ .answer second true :: later) →
      ∃ time, .change time ∈ middle
  notEarly : ∀ {earlier time later changed}, trace = earlier ++ .answer time true :: later →
    .change changed ∈ earlier → changed + quiet ≤ time
  atMost : trace.countP Event.isRelease ≤ trace.countP Event.isChange
  /-- The last burst is released exactly once, and in time for whoever asks often enough. -/
  once : ∀ {earlier latest later}, trace = earlier ++ .change latest :: later →
    (∀ event ∈ later, event.isChange = false) →
    AskedThrough interval (latest + quiet) (latest + quiet + interval) trace →
    ∃ before time behind, later = before ++ .answer time true :: behind ∧
      (∀ event ∈ before, event.isRelease = false) ∧ (∀ event ∈ behind, event.isRelease = false) ∧
      latest + quiet ≤ time ∧ time ≤ latest + quiet + interval

theorem Answered.releasesBursts (answered : Answered quiet trace) (ordered : Ordered trace)
    (interval : Nat) : ReleasesBursts quiet interval trace where
  answered := answered
  between := answered.exists_change
  notEarly split member := answered.not_early ordered split member
  atMost := answered.countP_lt_or_le.1
  once {earlier latest later} split lastChange asked := by
    rcases asked.exists_answer ordered with ⟨asks, released, member, behindQuiet, inTime⟩
    have memberLater : .answer asks released ∈ later := by
      rw [split] at member ordered
      rcases List.mem_append.1 member with before | behind
      · have le := ordered.le before (List.mem_cons_self ..)
        simp only [Event.time] at le
        omega
      · simpa using behind
    rcases answered.exists_first_release ordered split lastChange memberLater (by omega) with
      ⟨before, time, behind, rfl, none, le⟩
    have splitRelease : trace =
        (earlier ++ .change latest :: before) ++ .answer time true :: behind := by simp [split]
    refine ⟨before, time, behind, rfl, none, fun event second => ?_, ?_, by omega⟩
    · -- A second release would need a change of its own.
      cases event with
      | change _ => rfl
      | answer other released =>
          cases released with
          | false => rfl
          | true =>
              rcases List.append_of_mem second with ⟨middle, rest, rfl⟩
              rcases answered.exists_change splitRelease with ⟨changed, change⟩
              exact absurd (lastChange (.change changed) (by simp [change])) (by simp [Event.isChange])
    · exact answered.not_early ordered splitRelease (by simp)

/-- A debounce releases each burst once, not early and not late. -/
theorem releasesBursts_of_ordered (millis : Nat) {calls : List Call}
    (ordered : (calls.map Call.time).Pairwise (· ≤ ·)) :
    ReleasesBursts (millis * nanosPerMilli) (ofMillis millis).pollInterval
      ((ofMillis millis).trace calls) := by
  have inOrder := ordered_trace (ofMillis millis) ordered
  exact Answered.releasesBursts (answered_trace rfl inOrder) inOrder _

/-- Two changes that make one burst.  Quiet is over twenty milliseconds after the second. -/
theorem releasesBursts_of_ordered_once :
    ([.record 0, .ask 10000000, .record 15000000, .ask 20000000, .ask 30000000, .ask 35000000,
        .ask 45000000, .ask 46000000].map Call.time).Pairwise (· ≤ ·) ∧
      ReleasesBursts (20 * nanosPerMilli) 10000000
        [.change 0, .answer 10000000 false, .change 15000000, .answer 20000000 false,
          .answer 30000000 false, .answer 35000000 true, .answer 45000000 false,
          .answer 46000000 false] := by
  have ordered : ([.record 0, .ask 10000000, .record 15000000, .ask 20000000, .ask 30000000,
      .ask 35000000, .ask 45000000, .ask 46000000].map Call.time).Pairwise (· ≤ ·) := by decide
  exact ⟨ordered, releasesBursts_of_ordered 20 ordered⟩

end Debounce
end TypedRoutes
