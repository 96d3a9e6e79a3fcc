import Mathlib.Data.List.Perm.Basic
import Vestibule.Proofs.Continuity

/-! Users are unique by organization and email, and attestations by what they state. No run breaks
this, so that a look-up has one row to find at most, wherever in its table the row stands. -/

namespace Vestibule

/-- No two attestations state the same. -/
def Store.AttestationsUnique (s : Store) : Prop :=
  s.verifiedEmails.Pairwise fun v w => v.sameClaim w = false

theorem Store.AttestationsUnique.recordVerifiedEmail {s : Store} (unique : s.AttestationsUnique)
    (e : VerifiedEmail) : (s.recordVerifiedEmail e).AttestationsUnique := by
  unfold Store.recordVerifiedEmail
  split
  · exact unique
  · rename_i unstated
    simp only [Bool.not_eq_true, List.any_eq_false] at unstated
    exact List.pairwise_append.mpr ⟨unique, List.pairwise_singleton _ e, by simpa using unstated⟩

/-- What a commit makes of the attestations: nothing, or one is recorded. -/
inductive AttestationWrite (s : Store) : List VerifiedEmail → Prop where
  | kept : AttestationWrite s s.verifiedEmails
  | recorded (e : VerifiedEmail) : AttestationWrite s (s.recordVerifiedEmail e).verifiedEmails

namespace AttestationWrite

variable {s : Store} {attested : List VerifiedEmail}

theorem unique (write : AttestationWrite s attested) (unique : s.AttestationsUnique) :
    attested.Pairwise fun v w => v.sameClaim w = false := by
  cases write with
  | kept => exact unique
  | recorded e => exact unique.recordVerifiedEmail e

theorem grows (write : AttestationWrite s attested) : s.verifiedEmails <+: attested := by
  cases write with
  | kept => exact List.prefix_refl _
  | recorded e =>
      obtain ⟨added, _, _, recorded⟩ := s.recordVerifiedEmail_append e
      rw [recorded]
      exact List.prefix_append _ _

end AttestationWrite

namespace Service

variable {v : Service} {c : RequestContext} {heard : List ServiceDeed} {m : Moment}
  {s s' written : Store} {call : Call}

theorem Step.attestationWrite {salt : List UInt8} {l : Loaded} {request : LoginRequest}
    {lesson : Lesson} {change : Audit.IntermediateSessionChange}
    {rest : ServiceOperation LoginReply}
    (step : v.Step c salt heard m s l request lesson written change rest) :
    AttestationWrite s written.verifiedEmails := by
  cases step with
  | challengeIssued _ _ _ charged | resetCodeIssued _ _ _ charged =>
      rw [charged.counted, Store.countEmail_eq]
      exact .kept
  | emailProved => exact .recorded _
  | accountRedeemed =>
      split
      · exact .recorded _
      · exact .kept
  | resetCodeRedeemed | passwordStaged | stagedMatched | passwordMatched | loggedIn | redirected
  | connectionRedeemed | asserted => exact .kept

theorem Wrote.attestationWrite {rest : ServiceOperation Answer}
    (wrote : v.Wrote c call heard m s s' rest) : AttestationWrite s s'.verifiedEmails := by
  cases wrote with
  | login commit =>
      cases commit with
      | read => exact .kept
      | took took =>
          obtain ⟨l, lesson, written, change, _, step, _, rfl⟩ := took
          exact step.attestationWrite
      | missed missed =>
          obtain ⟨_, _, _, _, _, rfl⟩ := missed.frame
          exact .kept
  | exchanged exchanged =>
      obtain ⟨_, _, _, _, _, _, _, _, _, rfl⟩ := exchanged.frame
      exact .kept
  | minted | refreshed => exact .kept

end Service

section

variable {α : Type} {rows rows' : List α} {q : α → Bool}

theorem length_filter_le_one {R : α → α → Prop} (apart : rows.Pairwise R)
    (same : ∀ x y, q x = true → q y = true → ¬ R x y) : (rows.filter q).length ≤ 1 := by
  have kept := apart.filter q
  have sought : ∀ x ∈ rows.filter q, q x = true := fun x member => (List.mem_filter.mp member).2
  match found : rows.filter q with
  | [] | [_] => simp
  | x :: y :: _ =>
      rw [found] at kept sought
      exact absurd (List.rel_of_pairwise_cons kept (by simp))
        (same x y (sought x (by simp)) (sought y (by simp)))

/-- Where at most one row is sought, it is found wherever it stands. -/
theorem find?_eq_of_perm (few : (rows.filter q).length ≤ 1) (moved : rows'.Perm rows) :
    rows'.find? q = rows.find? q := by
  have kept : (rows'.filter q).Perm (rows.filter q) := moved.filter q
  rw [← List.head?_filter, ← List.head?_filter]
  match found : rows.filter q with
  | [] => rw [(kept.trans (.of_eq found)).eq_nil]
  | [x] => rw [List.perm_singleton.mp (kept.trans (.of_eq found))]
  | x :: y :: _ => simp [found] at few

end

/-- A look-up has one row to find at most, and the order of the rows does not matter. -/
structure Store.Unambiguous (s : Store) : Prop where
  user : ∀ organizationId email, (s.users.rows.filter fun u =>
    u.organizationId == organizationId && u.email == email).length ≤ 1
  attestation : ∀ projectId email provider subject, (s.verifiedEmails.filter fun e =>
    e.projectId == projectId && e.email == email && e.provider == provider &&
      e.providerSubject == subject).length ≤ 1
  userByEmail? : ∀ users : Table User User.id, users.rows.Perm s.users.rows →
    ∀ organizationId email, Store.userByEmail? { s with users := users } organizationId email =
      s.userByEmail? organizationId email
  isEmailVerifiedByProvider : ∀ attested, attested.Perm s.verifiedEmails →
    ∀ projectId email provider subject, Store.isEmailVerifiedByProvider
      { s with verifiedEmails := attested } projectId email provider subject =
        s.isEmailVerifiedByProvider projectId email provider subject

/-- Deactivated users are counted, so the active one that is looked up is alone. -/
theorem Store.UsersUnique.sought_once {s : Store} {q : User → Bool} (unique : s.UsersUnique)
    (sought : ∀ u w, q u = true → q w = true →
      u.organizationId = w.organizationId ∧ u.email = w.email) :
    (s.users.rows.filter q).length ≤ 1 := by
  have apart : s.users.rows.Pairwise fun u w =>
      ¬ (u.organizationId = w.organizationId ∧ u.email = w.email) :=
    (List.pairwise_map.mp s.users.distinct).imp_of_mem fun listed listed' differ same =>
      differ (unique _ listed _ listed' same.1 same.2)
  exact length_filter_le_one apart fun u w here there differ => differ (sought u w here there)

theorem Store.unambiguous {s : Store} (users : s.UsersUnique) (attested : s.AttestationsUnique) :
    s.Unambiguous where
  user organizationId email := users.sought_once fun u w here there => by
    simp only [Bool.and_eq_true, beq_iff_eq] at here there
    exact ⟨here.1.trans there.1.symm, here.2.trans there.2.symm⟩
  attestation projectId email provider subject :=
    length_filter_le_one attested fun e f here there => by
      simp only [Bool.and_eq_true, beq_iff_eq] at here there
      simp [VerifiedEmail.sameClaim, here, there]
  userByEmail? table moved organizationId email :=
    find?_eq_of_perm (users.sought_once fun u w here there => by
      simp only [Bool.and_eq_true, beq_iff_eq] at here there
      exact ⟨here.1.1.trans there.1.1.symm, here.1.2.trans there.1.2.symm⟩) moved
  isEmailVerifiedByProvider rows moved projectId email provider subject := moved.any_eq

variable {v : Service} {start : Store} {sys sys' : System} {past later : List Entry}

theorem Entry.Did.attestationWrite {x : Entry} {s s' : Store} (did : x.Did v s s') :
    AttestationWrite s s'.verifiedEmails := by
  rcases did with ⟨m, _, wrote⟩ | ⟨rfl, _⟩
  · exact wrote.attestationWrite
  · exact .kept

theorem Run.attestationsUnique {first : System} (run : Run TenantChange v first past sys)
    (sound : first.Sound v) (unique : first.store.AttestationsUnique) :
    sys.store.AttestationsUnique := by
  refine run.invariant sound (P := fun _ s => s.AttestationsUnique) unique ?_ ?_
  · exact fun past s x s' unique did => did.attestationWrite.unique unique
  · intro past s s' unique changed
    unfold Store.AttestationsUnique
    rw [changed.verifiedEmails]
    exact unique

/-- Attestations are only added, after those that were there. -/
theorem Run.attestations_grow {first : System} (run : Run TenantChange v first past sys)
    (sound : first.Sound v) : first.store.verifiedEmails <+: sys.store.verifiedEmails := by
  refine run.invariant sound (P := fun _ s => first.store.verifiedEmails <+: s.verifiedEmails)
    (List.prefix_refl _) ?_ ?_
  · exact fun past s x s' grown did => grown.trans did.attestationWrite.grows
  · exact fun past s s' grown changed => changed.verifiedEmails ▸ grown

/-- Every run keeps users and attestations unique. From any point of a run to any later one, a user
keeps its organization and its email, and the attestations that were there stay at the front, as
they were. So a look-up finds the one row that there is, whatever the order of the rows. -/
theorem Run.unique_stays_unique (begun : Run TenantChange v { store := start } past sys)
    (onward : Run TenantChange v sys later sys') (users : start.UsersUnique)
    (attested : start.AttestationsUnique) :
    sys'.store.UsersUnique ∧ sys'.store.AttestationsUnique ∧
      (∀ id u, sys.store.users.get? id = some u → ∃ u', sys'.store.users.get? id = some u' ∧
        u'.organizationId = u.organizationId ∧ u'.email = u.email) ∧
      sys.store.verifiedEmails <+: sys'.store.verifiedEmails ∧ sys'.store.Unambiguous := by
  have sound : sys.Sound v := begun.sound System.sound_idle
  have usersUnique : sys'.store.UsersUnique :=
    onward.usersUnique sound (begun.usersUnique System.sound_idle users)
  have attestationsUnique : sys'.store.AttestationsUnique :=
    onward.attestationsUnique sound (begun.attestationsUnique System.sound_idle attested)
  refine ⟨usersUnique, attestationsUnique, fun id u stored => ?_, onward.attestations_grow sound,
    Store.unambiguous usersUnique attestationsUnique⟩
  obtain ⟨u', stored', same⟩ := onward.user_stays sound stored
  exact ⟨u', stored', same.organizationId, same.email⟩

namespace Deployment

/-- A login with an account at Google whose email is verified. -/
def vouchedFor (n i : Nat) : List Move := viaGoogle ⟨"g-1", user.email, true, none, none, none⟩ n i

def vouchedOnce : List Entry × System :=
  System.play service (vouchedFor 0 0) { store := store (only user) (some organization.id) }

/-- The visitor redeems the same account again. -/
def vouchedTwice : List Entry × System := System.play service (vouchedFor 5 2) vouchedOnce.2

end Deployment

theorem Run.unique_stays_unique_of_repeat :
    Deployment.vouchedOnce.2.store.verifiedEmails.map (·.email) = [Deployment.user.email] ∧
      Deployment.vouchedTwice.2.store.verifiedEmails.map (·.email) = [Deployment.user.email] ∧
      Deployment.vouchedTwice.2.store.AttestationsUnique ∧
      Deployment.vouchedTwice.2.store.Unambiguous := by
  have begun : Run TenantChange Deployment.service
      { store := Deployment.store (Deployment.only Deployment.user)
          (some Deployment.organization.id) }
      Deployment.vouchedOnce.1 Deployment.vouchedOnce.2 := System.run_play _ _
  have onward : Run TenantChange Deployment.service Deployment.vouchedOnce.2
      Deployment.vouchedTwice.1 Deployment.vouchedTwice.2 := System.run_play _ _
  obtain ⟨_, attested, _, _, unambiguous⟩ :=
    Run.unique_stays_unique begun onward Deployment.usersUnique .nil
  exact ⟨by decide +kernel, by decide +kernel, attested, unambiguous⟩

end Vestibule
