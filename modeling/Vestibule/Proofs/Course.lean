import Vestibule.Proofs.Interleaving

/-! The course of one request within a run. Its own turns, in the order they were taken, are all
that it has heard; and a turn that commits more than a look at the store takes one step. -/

namespace Vestibule

/-- The step of a login that the turn took. A request that has yet to mail the code that it issued
has not succeeded, but it has taken its step. -/
def Entry.taken? (x : Entry) : Option LoginRequest :=
  match x.call, x.deed, x.rest.answer? with
  | .login _ request, .committed .., some (.ok _) => some request
  | .login _ request, .committed .., none =>
    if Service.twoPhase request then none else some request
  | _, _, _ => none

/-- A request under way is in step with the turns of a run that are its own. -/
structure Flight.Follows (f : Flight) (i : Nat) (past : List Entry) : Prop where
  heard : f.heard = (past.filter (·.flight == i)).map (·.deed)
  own : ∀ y ∈ past, y.flight = i → y.context = f.context ∧ y.call = f.call

variable {others : Store → Store → Prop} {v : Service} {first sys sys' : System}
  {past earlier later : List Entry} {x : Entry} {s s' : Store} {request : LoginRequest}

theorem Entry.Did.taken (did : x.Did v s s') (taken : x.taken? = some request) :
    ∃ salt m l lesson written change rest,
      x.Takes v s s' salt m l request lesson written change rest := by
  unfold Entry.taken? at taken
  split at taken
  · rename_i call deed ended
    cases taken
    refine did.performed ?_
    simp [Entry.performed?, call, deed, ended]
  · rename_i m before after call deed unended
    split at taken
    · cases taken
    · rename_i single
      cases taken
      obtain ⟨rfl, rfl, wrote⟩ := did.wrote deed
      rw [call] at wrote
      obtain ⟨onward, commit, left⟩ := wrote.of_login
      generalize heard : x.heard = before at commit
      cases commit with
      | read phases => exact absurd phases single
      | took took =>
          obtain ⟨l, lesson, written, change, admitted, step, _, after⟩ := took
          exact ⟨_, m, l, lesson, written, change, onward, call, deed, left, admitted,
            heard ▸ step, after⟩
      | missed => simp [left, Operation.map, Operation.answer?] at unended
  · cases taken

theorem Entry.Takes.taken? {salt : List UInt8} {m : Moment} {l : Loaded} {lesson : Lesson}
    {written : Store} {change : Audit.IntermediateSessionChange}
    {rest : ServiceOperation LoginReply}
    (takes : x.Takes v s s' salt m l request lesson written change rest) :
    x.taken? = some request := by
  simp only [Entry.taken?, takes.asked, takes.deed, takes.left]
  cases takes.step <;> rfl

/-- The record that a step leaves. -/
theorem Entry.Takes.taught {salt : List UInt8} {m : Moment} {l : Loaded} {lesson : Lesson}
    {written : Store} {change : Audit.IntermediateSessionChange}
    {rest : ServiceOperation LoginReply}
    (takes : x.Takes v s s' salt m l request lesson written change rest) :
    s'.intermediateSessions.get? x.context.intermediateSessionId =
      some (lesson.apply l.session) := by
  obtain ⟨_, _, _, _, framed⟩ := takes.step.frame
  rw [takes.after, framed]
  exact takes.admitted.get?_taught lesson

theorem System.turn?_eq_some {t : Turn serviceInterface} {i : Nat} :
    sys.turn? t i = some (x, sys') ↔ ∃ f deed rest s', sys.flights[i]? = some f ∧
      f.rest.step? t sys.store = some (deed, rest, s') ∧
        x = ⟨i, f.context, f.call, f.heard, deed, rest⟩ ∧
          sys' = {
            store := s'
            flights := sys.flights.set i { f with heard := f.heard ++ [deed], rest := rest } } := by
  constructor
  · intro taken
    obtain ⟨f, flying, taken⟩ := Option.bind_eq_some_iff.mp taken
    obtain ⟨⟨deed, rest, s'⟩, stepped, same⟩ := Option.map_eq_some_iff.mp taken
    cases same
    exact ⟨f, deed, rest, s', flying, stepped, rfl, rfl⟩
  · rintro ⟨f, deed, rest, s', flying, stepped, rfl, rfl⟩
    simp [System.turn?, flying, stepped]

namespace Flight.Follows

variable {f : Flight} {i : Nat}

/-- A turn of another request is none of its own. -/
theorem other (follows : f.Follows i past) (foreign : x.flight ≠ i) : f.Follows i (past ++ [x]) := by
  refine ⟨?_, fun y member own => ?_⟩
  · rw [follows.heard]
    simp [foreign]
  · rcases List.mem_append.mp member with before | new
    · exact follows.own y before own
    · cases List.mem_singleton.mp new
      exact absurd own foreign

theorem turn {deed : ServiceDeed} {rest : ServiceOperation Answer} (follows : f.Follows i past) :
    Follows { f with heard := f.heard ++ [deed], rest := rest } i
      (past ++ [⟨i, f.context, f.call, f.heard, deed, rest⟩]) := by
  refine ⟨?_, fun y member own => ?_⟩
  · simp [follows.heard]
  · rcases List.mem_append.mp member with before | new
    · exact follows.own y before own
    · cases List.mem_singleton.mp new
      exact ⟨rfl, rfl⟩

end Flight.Follows

namespace Run

/-- Requests are told apart by when they arrived, and each has heard its own turns. -/
theorem follows (run : Run others v { store := s } past sys) :
    (∀ y ∈ past, y.flight < sys.flights.length) ∧
      ∀ i (f : Flight), sys.flights[i]? = some f → f.Follows i past := by
  generalize begun : ({ store := s } : System) = first at run
  induction run with
  | start =>
      cases begun
      simp
  | @arrive past sys run c call ih =>
      obtain ⟨known, follows⟩ := ih
      refine ⟨fun y member => ?_, fun i f flying => ?_⟩
      · have before := known y member
        simp only [System.arrive, List.length_append, List.length_singleton]
        omega
      · by_cases early : i < sys.flights.length
        · simp only [System.arrive, List.getElem?_append_left early] at flying
          exact follows i f flying
        · simp only [System.arrive, List.getElem?_append_right (Nat.le_of_not_lt early)] at flying
          cases List.mem_singleton.mp (List.mem_of_getElem? flying)
          have absent : ∀ y ∈ past, y.flight ≠ i := by
            intro y member same
            have before := known y member
            omega
          refine ⟨?_, fun y member own => absurd own (absent y member)⟩
          simpa [List.filter_eq_nil_iff] using absent
  | @turn past sys sys' x run t i taken ih =>
      obtain ⟨known, follows⟩ := ih
      obtain ⟨f, deed, rest, s', flying, _, rfl, rfl⟩ := System.turn?_eq_some.mp taken
      have bound : i < sys.flights.length := (List.getElem?_eq_some_iff.mp flying).1
      refine ⟨fun y member => ?_, fun j g flying' => ?_⟩
      · simp only [List.length_set]
        rcases List.mem_append.mp member with before | new
        · exact known y before
        · cases List.mem_singleton.mp new
          exact bound
      · by_cases own : i = j
        · subst own
          simp only [List.getElem?_set_self bound, Option.some.injEq] at flying'
          subst flying'
          exact (follows i f flying).turn
        · simp only [List.getElem?_set_ne own] at flying'
          exact (follows j g flying').other own
  | change run changed ih => exact ih

/-- Whatever a request has heard before a turn was done in an earlier turn of the same request. -/
theorem heard (run : Run others v { store := s } (earlier ++ x :: later) sys) :
    x.heard = (earlier.filter (·.flight == x.flight)).map (·.deed) ∧
      ∀ y ∈ earlier, y.flight = x.flight → y.context = x.context ∧ y.call = x.call := by
  obtain ⟨sys₁, sys₂, t, i, before, taken, _⟩ := run.split
  obtain ⟨f, deed, rest, s', flying, _, rfl, _⟩ := System.turn?_eq_some.mp taken
  have follows := before.follows.2 i f flying
  exact ⟨follows.heard, follows.own⟩

theorem mem_heard (run : Run others v { store := s } (earlier ++ x :: later) sys) {d : ServiceDeed}
    (heard : d ∈ x.heard) :
    ∃ y ∈ earlier, y.deed = d ∧ y.flight = x.flight ∧ y.context = x.context ∧ y.call = x.call := by
  obtain ⟨whole, own⟩ := run.heard
  rw [whole] at heard
  obtain ⟨y, member, rfl⟩ := List.mem_map.mp heard
  obtain ⟨member, same⟩ := List.mem_filter.mp member
  have flight : y.flight = x.flight := by simpa using same
  exact ⟨y, member, rfl, flight, own y member flight⟩

end Run

namespace Deployment

/-- A login with a password. -/
def loggedIn : List Entry × System :=
  System.play service
    [.arrive context (.login [] (.verifyPassword (some user.email) "correct horse")), turn none 0 0]
    { store := store (only user) none }

end Deployment

end Vestibule
