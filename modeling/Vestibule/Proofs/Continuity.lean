import Vestibule.Proofs.Interleaving

/-! What stays through every run: users remain who they are, one for each email of an organization,
and a session keeps the email and the organization it was given. -/

namespace Vestibule

/-- An organization has at most one user with an email, deactivated ones counted. -/
def Store.UsersUnique (s : Store) : Prop :=
  ∀ u ∈ s.users.rows, ∀ w ∈ s.users.rows,
    u.organizationId = w.organizationId → u.email = w.email → u.id = w.id

theorem Deployment.usersUnique {u : User} {organizationId : Option Uuid} :
    (store (only u) organizationId).UsersUnique := by
  intro w listed w' listed' _ _
  cases List.mem_singleton.mp listed
  cases List.mem_singleton.mp listed'
  rfl

/-- Where emails are unique, an active user is found by the email. -/
theorem Store.UsersUnique.userByEmail? {s : Store} {u : User} {id : Uuid} (unique : s.UsersUnique)
    (stored : s.users.get? id = some u) (active : u.isActive = true) :
    s.userByEmail? u.organizationId u.email = some u := by
  have listed := Table.mem_of_get? stored
  cases found : s.userByEmail? u.organizationId u.email with
  | none =>
      have missing := List.find?_eq_none.mp found u listed
      simp [active] at missing
  | some w =>
      obtain ⟨present, organization, email, _⟩ := Store.userByEmail?_eq_some found
      have same := unique w (Table.mem_of_get? present) u listed organization email
      rw [same, Table.get?_of_mem listed] at present
      exact present.symm

/-- A session has at least what it had: its email and its organization stay as they were. -/
structure IntermediateSession.Continues (r r' : IntermediateSession) : Prop where
  email : ∀ email, r.email = some email → r'.email = some email
  organizationId : ∀ id, r.organizationId = some id → r'.organizationId = some id

theorem IntermediateSession.Continues.trans {r r' r'' : IntermediateSession}
    (first : r.Continues r') (second : r'.Continues r'') : r.Continues r'' :=
  ⟨fun email known => second.email email (first.email email known),
    fun id bound => second.organizationId id (first.organizationId id bound)⟩

theorem UserWrite.usersUnique {s : Store} {users : Table User User.id} (write : UserWrite s users)
    (unique : s.UsersUnique) : Store.UsersUnique { s with users := users } := by
  intro u listed w other organization email
  rcases write.origin listed with ⟨x, old, same⟩ | ⟨rows, free⟩ <;>
    rcases write.origin other with ⟨y, old', same'⟩ | ⟨rows', free'⟩
  · rw [same.id, same'.id]
    refine unique x old y old' ?_ ?_
    · rw [← same.organizationId, organization, same'.organizationId]
    · rw [← same.email, email, same'.email]
  · refine absurd ⟨?_, ?_⟩ (free' x old)
    · rw [← same.organizationId, organization]
    · rw [← same.email, email]
  · refine absurd ⟨?_, ?_⟩ (free y old')
    · rw [← same'.organizationId, organization]
    · rw [← same'.email, email]
  · have last := List.append_cancel_left (rows.symm.trans rows')
    cases last
    rfl

namespace Service

variable {v : Service} {c : RequestContext} {heard : List ServiceDeed} {m : Moment}
  {s s' : Store} {call : Call} {rest : ServiceOperation Answer} {id : Uuid}
  {r : IntermediateSession}

theorem Wrote.continues (wrote : v.Wrote c call heard m s s' rest)
    (stored : s.intermediateSessions.get? id = some r) :
    ∃ r', s'.intermediateSessions.get? id = some r' ∧ r.Continues r' := by
  have kept : r.Continues r := ⟨fun _ known => known, fun _ bound => bound⟩
  rcases wrote.records with unchanged | ⟨l, lesson, admitted, fits, written⟩
  · rw [unchanged]
    exact ⟨r, stored, kept⟩
  · rw [written]
    by_cases own : c.intermediateSessionId = id
    · subst own
      cases stored.symm.trans admitted.stored
      exact ⟨Lesson.apply l.session lesson, admitted.get?_taught lesson, fun _ => fits.email,
        fun _ => fits.organizationId⟩
    · refine ⟨r, ?_, kept⟩
      rw [Table.get?_replace_of_ne, stored]
      rw [Lesson.apply_id, admitted.session_id]
      exact own

end Service

variable {v : Service} {first sys : System} {past : List Entry} {id : Uuid}

theorem Entry.Did.userWrite {x : Entry} {s s' : Store} (did : x.Did v s s') :
    UserWrite s s'.users := by
  rcases did with ⟨m, _, wrote⟩ | ⟨rfl, _⟩
  · exact wrote.userWrite
  · exact .kept

theorem Run.usersUnique (run : Run TenantChange v first past sys) (sound : first.Sound v)
    (unique : first.store.UsersUnique) : sys.store.UsersUnique := by
  refine run.invariant sound (P := fun _ s => s.UsersUnique) unique ?_ ?_
  · intro past s x s' unique did
    exact did.userWrite.usersUnique unique
  · intro past s s' unique changed
    unfold Store.UsersUnique
    rw [changed.users]
    exact unique

/-- A user stays the same person through every run. -/
theorem Run.user_stays {u : User} (run : Run TenantChange v first past sys) (sound : first.Sound v)
    (stored : first.store.users.get? id = some u) :
    ∃ u', sys.store.users.get? id = some u' ∧ u.SameIdentity u' := by
  refine run.invariant sound
    (P := fun _ s => ∃ u', s.users.get? id = some u' ∧ u.SameIdentity u') ⟨u, stored, .refl u⟩ ?_ ?_
  · rintro past s x s' ⟨u', stored, same⟩ did
    obtain ⟨u'', stored', same'⟩ := did.userWrite.successor stored
    exact ⟨u'', stored', same.trans same'⟩
  · rintro past s s' ⟨u', stored, same⟩ changed
    exact ⟨u', changed.users ▸ stored, same⟩

/-- A session keeps the email and the organization it was given. -/
theorem Run.session_continues {r : IntermediateSession} (run : Run TenantChange v first past sys)
    (sound : first.Sound v) (stored : first.store.intermediateSessions.get? id = some r) :
    ∃ r', sys.store.intermediateSessions.get? id = some r' ∧ r.Continues r' := by
  refine run.invariant sound
    (P := fun _ s => ∃ r', s.intermediateSessions.get? id = some r' ∧ r.Continues r')
    ⟨r, stored, fun _ known => known, fun _ bound => bound⟩ ?_ ?_
  · rintro past s x s' ⟨r', stored, continues⟩ (⟨m, _, wrote⟩ | ⟨rfl, _⟩)
    · obtain ⟨r'', stored', continues'⟩ := wrote.continues stored
      exact ⟨r'', stored', continues.trans continues'⟩
    · exact ⟨r', stored, continues⟩
  · rintro past s s' ⟨r', stored, continues⟩ changed
    exact ⟨r', changed.intermediateSessions ▸ stored, continues⟩

end Vestibule
