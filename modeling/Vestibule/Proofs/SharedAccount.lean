import Vestibule.Proofs.MatchedUser

/-! Accounts at providers that two users of an organization hold. Accounts are linked by exchanges
only and never unlinked, so they stay apart until an exchange links one to a user while another user
holds it. The store does not refuse that, and an exchange looks for the holder in vain where the
holder is deactivated, or does not look for it where another account came first. -/

namespace Vestibule

/-- No two users of an organization hold the same account at a provider. -/
def Store.AccountsUnique (s : Store) : Prop :=
  ∀ u ∈ s.users.rows, ∀ w ∈ s.users.rows, ∀ p subject, u.organizationId = w.organizationId →
    u.providerSubject p = some subject → w.providerSubject p = some subject → u.id = w.id

/-- From `s` to `s'` an account was linked to `u`, while `w` of the same organization held it. -/
structure Store.Shares (s s' : Store) (p : OAuthProvider) (subject : String) (u w : User) :
    Prop where
  holder : w ∈ s.users.rows
  held : w.providerSubject p = some subject
  linked : u ∈ s'.users.rows
  holds : u.providerSubject p = some subject
  together : u.organizationId = w.organizationId
  apart : u.id ≠ w.id
  anew : ∀ old, s.users.get? u.id = some old → old.providerSubject p ≠ some subject

/-- The turn linked an account to `u` that `w` held. -/
def Entry.Shares (x : Entry) (p : OAuthProvider) (subject : String) (u w : User) : Prop :=
  ∃ m s s', x.deed = .committed m s s' ∧ s.Shares s' p subject u w

/-- The same person, with at least the same accounts. -/
structure User.Keeps (u u' : User) : Prop where
  same : u.SameIdentity u'
  accounts : ∀ p subject, u.providerSubject p = some subject → u'.providerSubject p = some subject

theorem User.Keeps.refl (u : User) : u.Keeps u := ⟨.refl u, fun _ _ held => held⟩

theorem User.Keeps.trans {u u' u'' : User} (first : u.Keeps u') (second : u'.Keeps u'') :
    u.Keeps u'' :=
  ⟨first.same.trans second.same,
    fun p subject held => second.accounts p subject (first.accounts p subject held)⟩

section

variable {u u' : User} {p q : OAuthProvider} {subject : String} {now : Instant}
  {r : IntermediateSession} {accounts : List (OAuthProvider × String)}

theorem User.providerSubject_set :
    (u.setProviderSubject p subject).providerSubject q =
      if p = q then some subject else u.providerSubject q := by
  cases p <;> cases q <;> rfl

/-- Linking accounts adds the ones that are missing. -/
theorem linkAccounts_accounts (linked : linkAccounts u accounts = .ok u') :
    (u.providerSubject p = some subject → u'.providerSubject p = some subject) ∧
      (u'.providerSubject p = some subject →
        u.providerSubject p = some subject ∨ (p, subject) ∈ accounts) := by
  induction accounts generalizing u with
  | nil =>
      cases linked
      exact ⟨id, .inl⟩
  | cons account rest ih =>
      obtain ⟨provider, known⟩ := account
      simp only [linkAccounts] at linked
      split at linked
      · split at linked
        · obtain ⟨kept, origin⟩ := ih linked
          exact ⟨kept, fun held => (origin held).imp_right (List.mem_cons_of_mem _)⟩
        · cases linked
      · rename_i free
        obtain ⟨kept, origin⟩ := ih linked
        simp only [User.providerSubject_set] at kept origin
        by_cases same : provider = p
        · subst same
          simp only [if_true, Option.some.injEq] at kept origin
          refine ⟨fun held => by simp [held] at free, fun held => .inr ?_⟩
          rcases origin held with rfl | later
          · exact List.mem_cons_self
          · exact List.mem_cons_of_mem _ later
        · simp only [same, if_false] at kept origin
          exact ⟨kept, fun held => (origin held).imp_right (List.mem_cons_of_mem _)⟩

theorem attachIdentity_accounts (attached : attachIdentity now u r = .ok u') :
    u.Keeps u' ∧ ∀ p subject, u'.providerSubject p = some subject →
      u.providerSubject p = some subject ∨ (p, subject) ∈ r.providerSubjects := by
  have same := (attachIdentity_sameIdentity attached).1
  cases linked : linkAccounts u r.providerSubjects with
  | error provider => simp [attachIdentity, linked, bind, Except.bind] at attached
  | ok w =>
      have accounts : ∀ p, u'.providerSubject p = w.providerSubject p := by
        simp only [attachIdentity, linked, bind, Except.bind, pure, Except.pure,
          Except.ok.injEq] at attached
        subst attached
        intro p
        cases r.stagedPasswordHash <;> cases p <;> rfl
      refine ⟨⟨same, fun p subject held => ?_⟩, fun p subject held => ?_⟩
      · rw [accounts]
        exact (linkAccounts_accounts linked).1 held
      · rw [accounts] at held
        exact (linkAccounts_accounts linked).2 held

end

variable {v : Service} {c : RequestContext} {salt : List UInt8} {heard : List ServiceDeed}
  {m : Moment} {s s' written : Store} {l : Loaded} {request : LoginRequest} {lesson : Lesson}
  {change : Audit.IntermediateSessionChange} {call : Call} {rest : ServiceOperation Answer}
  {id : Uuid} {u w : User} {p : OAuthProvider} {subject : String} {x : Entry}

/-- What a commit makes of the accounts: they stay with their users, or it is an exchange. -/
inductive AccountWrite (v : Service) (c : RequestContext) (m : Moment) (s s' : Store) : Prop where
  | kept (users : s'.users = s.users)
  | replaced {u u' : User} (stored : s.users.get? u.id = some u) (same : u.SameIdentity u')
      (accounts : ∀ p, u'.providerSubject p = u.providerSubject p)
      (users : s'.users = s.users.replace u')
  | exchanged {result : IssuedSession × User × Bool} (exchanged : v.Exchanged c m s s' result)

theorem Service.Step.users {onward : ServiceOperation LoginReply}
    (step : v.Step c salt heard m s l request lesson written change onward) :
    written.users = s.users ∨ ∃ u hash, s.users.get? u.id = some u ∧
      written.users = s.users.replace (u.rehashed m.now hash) := by
  cases step with
  | challengeIssued _ _ _ charged | resetCodeIssued _ _ _ charged =>
      rw [charged.counted, Store.countEmail_eq]
      exact .inl rfl
  | emailProved =>
      rw [Store.recordVerifiedEmail_eq]
      exact .inl rfl
  | passwordMatched _ owner | loggedIn owner => exact .inr ⟨_, _, owner.stored.1, rfl⟩
  | accountRedeemed =>
      split
      · rw [Store.recordVerifiedEmail_eq]
        exact .inl rfl
      · exact .inl rfl
  | resetCodeRedeemed | passwordStaged | stagedMatched | redirected | connectionRedeemed
  | asserted => exact .inl rfl

theorem CredentialMatcher.miss?_providerSubject {k : CredentialMatcher} {now : Instant}
    {w : Mismatch} (missed : k.miss? now u = some w) :
    w.user.providerSubject p = u.providerSubject p := by
  rcases miss?_eq_some missed with ⟨_, rfl⟩ | ⟨_, _, _, rfl⟩ <;> cases p <;> rfl

theorem Service.Wrote.accounts (wrote : v.Wrote c call heard m s s' rest) :
    AccountWrite v c m s s' := by
  cases wrote with
  | login commit =>
      cases commit with
      | read => exact .kept rfl
      | took took =>
          obtain ⟨l, lesson, written, change, _, step, _, rfl⟩ := took
          rcases step.users with same | ⟨u, hash, stored, replaced⟩
          · exact .kept same
          · exact .replaced stored User.rehashed_sameIdentity (fun p => by cases p <;> rfl) replaced
      | missed missed =>
          obtain ⟨l, u, w, _, owner, _, missed, _, _, rfl⟩ := missed
          exact .replaced owner.stored.1 (CredentialMatcher.miss?_sameIdentity missed)
            (fun _ => CredentialMatcher.miss?_providerSubject missed) rfl
  | exchanged exchanged => exact .exchanged exchanged
  | minted | refreshed => exact .kept rfl

/-- A user that is replaced by one with its accounts leaves everybody's as they were. -/
theorem Table.keeps_of_replaced {users : Table User User.id} {u u' w : User}
    (stored : users.get? u.id = some u) (keeps : u.Keeps u') (found : users.get? id = some w) :
    ∃ w', (users.replace u').get? id = some w' ∧ w.Keeps w' := by
  by_cases own : u.id = id
  · subst own
    cases stored.symm.trans found
    rw [← keeps.same.id] at stored ⊢
    exact ⟨u', Table.get?_replace_self stored, keeps⟩
  · exact ⟨w, by rw [Table.get?_replace_of_ne (keeps.same.id ▸ own), found], .refl w⟩

theorem Resolves.keeps {organizationId : Uuid} {r : IntermediateSession} {created : Bool}
    (resolves : Resolves m s organizationId r u created written)
    (found : s.users.get? id = some w) : ∃ w', written.users.get? id = some w' ∧ w.Keeps w' := by
  cases resolves with
  | found resolved attached =>
      exact Table.keeps_of_replaced (Store.userForExchange?_eq_some resolved).1
        (attachIdentity_accounts attached).1 found
  | created _ _ _ _ fresh => exact ⟨w, Table.get?_add_of_some found fresh, .refl w⟩

/-- Accounts are never unlinked. -/
theorem AccountWrite.keeps (write : AccountWrite v c m s s') (found : s.users.get? id = some w) :
    ∃ w', s'.users.get? id = some w' ∧ w.Keeps w' := by
  cases write with
  | kept users => exact ⟨w, users ▸ found, .refl w⟩
  | @replaced u u' stored same accounts users =>
      rw [users]
      exact Table.keeps_of_replaced stored
        ⟨same, fun p subject held => (accounts p).trans held⟩ found
  | exchanged exchanged =>
      obtain ⟨_, _, _, _, _, _, _, _, _, resolves, _, _, _, _, rfl⟩ := exchanged
      exact resolves.keeps found

/-- An account that is new to somebody was redeemed on the session that was exchanged, and nobody
but the user of the exchange has one that is new. -/
theorem Resolves.anew {organizationId : Uuid} {r : IntermediateSession} {created : Bool}
    (resolves : Resolves m s organizationId r u created written) (listed : w ∈ written.users.rows)
    (holds : w.providerSubject p = some subject)
    (anew : ∀ old, s.users.get? w.id = some old → old.providerSubject p ≠ some subject) :
    w = u ∧ (p, subject) ∈ r.providerSubjects := by
  have old : w ∉ s.users.rows := fun member => anew w (Table.get?_of_mem member) holds
  cases resolves with
  | @found before u resolved attached =>
      obtain ⟨keeps, origin⟩ := attachIdentity_accounts attached
      have stored := (Store.userForExchange?_eq_some resolved).1
      simp only [Store.withUser, Table.rows_replace, List.mem_map] at listed
      obtain ⟨y, member, rfl⟩ := listed
      split at holds
      · rename_i own
        rw [if_pos own] at anew ⊢
        refine ⟨rfl, (origin p subject holds).resolve_left ?_⟩
        exact anew before (keeps.same.id ▸ stored)
      · rename_i other
        rw [if_neg other] at old
        exact absurd member old
  | created absent known attached unique fresh =>
      obtain ⟨_, origin⟩ := attachIdentity_accounts attached
      rw [Table.rows_add fresh] at listed
      have new := List.mem_singleton.mp ((List.mem_append.mp listed).resolve_left old)
      subst new
      refine ⟨rfl, (origin p subject holds).resolve_left ?_⟩
      cases p <;> simp [User.new, User.providerSubject]

/-- Only an exchange links accounts: those of its session, to its user. -/
theorem Store.Shares.exchanged (shares : s.Shares s' p subject u w)
    (write : AccountWrite v c m s s') :
    ∃ l organizationId issued created written, v.Exchanged c m s s' (issued, u, created) ∧
      Loaded.Admitted c m.now s l ∧ Resolves m s organizationId l.session u created written ∧
        (p, subject) ∈ l.session.providerSubjects := by
  cases write with
  | kept users =>
      have listed := shares.linked
      rw [users] at listed
      exact absurd shares.holds (shares.anew u (Table.get?_of_mem listed))
  | @replaced y y' stored same accounts users =>
      have listed := shares.linked
      rw [users, Table.rows_replace, List.mem_map] at listed
      obtain ⟨z, member, changed⟩ := listed
      split at changed
      · subst changed
        exact absurd ((accounts p).symm.trans shares.holds)
          (shares.anew y (same.id ▸ stored))
      · subst changed
        exact absurd shares.holds (shares.anew z (Table.get?_of_mem member))
  | exchanged exchanged =>
      have whole := exchanged
      obtain ⟨l, o, _, y, created, written, _, admitted, _, resolves, _, _, _, rfl, rfl⟩ :=
        exchanged
      have listed : u ∈ written.users.rows := shares.linked
      obtain ⟨rfl, redeemed⟩ := resolves.anew listed shares.holds shares.anew
      exact ⟨l, o.id, _, created, written, whole, admitted, resolves, redeemed⟩

/-- The holder of a redeemed account is passed over for one of two reasons: it is deactivated, or an
account that comes before is linked to somebody else. -/
theorem Resolves.overlooks {organizationId : Uuid} {r : IntermediateSession} {created : Bool}
    (resolves : Resolves m s organizationId r u created written)
    (redeemed : (p, subject) ∈ r.providerSubjects) (holder : w ∈ s.users.rows)
    (held : w.providerSubject p = some subject) (together : w.organizationId = organizationId)
    (anew : ∀ old, s.users.get? u.id = some old → old.providerSubject p ≠ some subject) :
    w.isActive = false ∨ ∃ old before q other after, s.users.get? u.id = some old ∧
      r.providerSubjects = before ++ (q, other) :: after ∧ (p, subject) ∈ after ∧
        old.providerSubject q = some other := by
  cases active : w.isActive with
  | false => exact .inl rfl
  | true =>
      right
      have known : (s.userBySubject? organizationId p subject).isSome = true := by
        rw [Store.userBySubject?, List.find?_isSome]
        exact ⟨w, holder, by simp [together, active, held]⟩
      have linked : (s.linkedUser? organizationId r).isSome = true := by
        rw [Store.linkedUser?, List.findSome?_isSome_iff]
        exact ⟨(p, subject), redeemed, known⟩
      obtain ⟨old, linked⟩ := Option.isSome_iff_exists.mp linked
      have standsFor : s.userForExchange? organizationId r = some old := by
        rw [Store.userForExchange?, linked, Option.some_or]
      obtain ⟨before, ⟨q, other⟩, after, accounts, found, none⟩ :=
        List.findSome?_eq_some_iff.mp linked
      obtain ⟨stored, _, _, holds⟩ := Store.userBySubject?_eq_some found
      cases resolves with
      | created absent => cases absent.symm.trans standsFor
      | found resolved attached =>
          cases resolved.symm.trans standsFor
          rw [← (attachIdentity_accounts attached).1.same.id] at stored
          refine ⟨old, before, q, other, after, stored, accounts, ?_, holds⟩
          rw [accounts] at redeemed
          rcases List.mem_append.mp redeemed with early | late
          · have missing := none _ early
            rw [missing] at known
            cases known
          · rcases List.mem_cons.mp late with same | later
            · cases same
              exact absurd holds (anew old stored)
            · exact later

/-- A user that an exchange is for is of the session's organization. -/
theorem Resolves.organizationId {organizationId : Uuid} {r : IntermediateSession} {created : Bool}
    (resolves : Resolves m s organizationId r u created written) :
    u.organizationId = organizationId := by
  cases resolves with
  | found found attached =>
      rw [(attachIdentity_accounts attached).1.same.organizationId]
      exact (Store.userForExchange?_eq_some found).2.1
  | created _ _ attached =>
      rw [(attachIdentity_accounts attached).1.same.organizationId]
      rfl

/-- At most one user is written in a commit. -/
theorem UserWrite.one {users : Table User User.id} (write : UserWrite s users)
    (listed : u ∈ users.rows) (listed' : w ∈ users.rows) (new : u ∉ s.users.rows)
    (new' : w ∉ s.users.rows) : u = w := by
  cases write with
  | kept => exact absurd listed new
  | @replaced y y' stored same =>
      rw [Table.rows_replace, List.mem_map] at listed listed'
      obtain ⟨z, member, rfl⟩ := listed
      obtain ⟨z', member', rfl⟩ := listed'
      by_cases own : z.id = y'.id <;> by_cases own' : z'.id = y'.id <;> simp_all
  | added unique fresh =>
      rw [Table.rows_add fresh] at listed listed'
      have last := List.mem_singleton.mp ((List.mem_append.mp listed).resolve_left new)
      have last' := List.mem_singleton.mp ((List.mem_append.mp listed').resolve_left new')
      exact last.trans last'.symm

/-- Accounts that were apart stay apart, but where one is shared. -/
theorem Entry.Did.accountsUnique (did : x.Did v s s') (unique : s.AccountsUnique)
    (apart : ∀ p subject u w, ¬ s.Shares s' p subject u w) : s'.AccountsUnique := by
  intro u listed w listed' p subject together holds holds'
  have write := did.userWrite
  -- Whoever holds the account now held it before, or has it anew.
  have origin : ∀ y ∈ s'.users.rows, y.providerSubject p = some subject →
      (∃ old ∈ s.users.rows, old.SameIdentity y ∧ old.providerSubject p = some subject) ∨
        ∀ old, s.users.get? y.id = some old → old.providerSubject p ≠ some subject := by
    intro y member held
    by_cases before : ∃ old, s.users.get? y.id = some old ∧ old.providerSubject p = some subject
    · obtain ⟨old, stored, had⟩ := before
      obtain ⟨y', stored', same⟩ := write.successor stored
      cases (Table.get?_of_mem member).symm.trans stored'
      exact .inl ⟨old, Table.mem_of_get? stored, same, had⟩
    · exact .inr fun old stored had => before ⟨old, stored, had⟩
  refine Decidable.byContradiction fun different => ?_
  rcases origin u listed holds with ⟨old, member, same, had⟩ | anew <;>
    rcases origin w listed' holds' with ⟨old', member', same', had'⟩ | anew'
  · refine different ?_
    rw [same.id, same'.id]
    refine unique old member old' member' p subject ?_ had had'
    rw [← same.organizationId, together, same'.organizationId]
  · refine apart p subject w old ⟨member, had, listed', holds', ?_, ?_, anew'⟩
    · rw [← same.organizationId, together]
    · rw [← same.id]
      exact Ne.symm different
  · refine apart p subject u old' ⟨member', had', listed, holds, ?_, ?_, anew⟩
    · rw [← same'.organizationId, together]
    · rw [← same'.id]
      exact different
  · have new : u ∉ s.users.rows := fun member => anew u (Table.get?_of_mem member) holds
    have new' : w ∉ s.users.rows := fun member => anew' w (Table.get?_of_mem member) holds'
    exact different (congrArg User.id (write.one listed listed' new new'))

variable {first sys : System} {past : List Entry}

theorem Entry.Did.keeps (did : x.Did v s s') (found : s.users.get? id = some w) :
    ∃ w', s'.users.get? id = some w' ∧ w.Keeps w' := by
  rcases did with ⟨m, _, wrote⟩ | ⟨rfl, _⟩
  · exact wrote.accounts.keeps found
  · exact ⟨w, found, .refl w⟩

theorem Run.user_keeps (run : Run TenantChange v first past sys) (sound : first.Sound v)
    (found : first.store.users.get? id = some w) :
    ∃ w', sys.store.users.get? id = some w' ∧ w.Keeps w' := by
  refine run.invariant sound (P := fun _ s => ∃ w', s.users.get? id = some w' ∧ w.Keeps w')
    ⟨w, found, .refl w⟩ ?_ ?_
  · rintro past s x s' ⟨w', stored, keeps⟩ did
    obtain ⟨w'', stored', keeps'⟩ := did.keeps stored
    exact ⟨w'', stored', keeps.trans keeps'⟩
  · rintro past s s' ⟨w', stored, keeps⟩ changed
    exact ⟨w', changed.users ▸ stored, keeps⟩

/-- An account that is shared once stays shared. -/
theorem Run.shared_stays {start : Store} (run : Run TenantChange v { store := start } past sys)
    (member : x ∈ past) (shares : x.Shares p subject u w) : ¬ sys.store.AccountsUnique := by
  obtain ⟨earlier, later, rfl⟩ := List.append_of_mem member
  obtain ⟨sys₁, sys₂, t, i, begun, took, onward⟩ := run.split
  obtain ⟨sound, did⟩ := (begun.sound System.sound_idle).turn took
  obtain ⟨m, s, s', deed, shares⟩ := shares
  obtain ⟨rfl, rfl, _⟩ := did.wrote deed
  obtain ⟨w₁, stored₁, kept₁⟩ := did.keeps (Table.get?_of_mem shares.holder)
  obtain ⟨w₂, stored₂, kept₂⟩ := onward.user_keeps sound stored₁
  obtain ⟨u₂, stored', kept'⟩ := onward.user_keeps sound (Table.get?_of_mem shares.linked)
  have kept := kept₁.trans kept₂
  intro unique
  have same := unique u₂ (Table.mem_of_get? stored') w₂ (Table.mem_of_get? stored₂) p subject
    (by rw [kept'.same.organizationId, shares.together, kept.same.organizationId])
    (kept'.accounts p subject shares.holds) (kept.accounts p subject shares.held)
  rw [kept'.same.id, kept.same.id] at same
  exact shares.apart same

/-- Accounts stay apart through a run, but where a turn shares one; and the turns that do are
exchanges of sessions that the account was redeemed on, and that pass its holder over: it is
deactivated, or an account that comes before, Google before Microsoft before GitHub, is the one of
the user that gets the session. -/
theorem Run.accounts_unique {start : Store} (unique : start.AccountsUnique)
    (run : Run TenantChange v { store := start } past sys) :
    (sys.store.AccountsUnique ↔ ∀ x ∈ past, ∀ p subject u w, ¬ x.Shares p subject u w) ∧
    ∀ x ∈ past, ∀ p subject u w, x.Shares p subject u w →
      ∃ m s s' r issued created, x.deed = .committed m s s' ∧
        v.Exchanged x.context m s s' (issued, u, created) ∧
        s.intermediateSessions.get? x.context.intermediateSessionId = some r ∧
        (p, subject) ∈ r.providerSubjects ∧
        (w.isActive = false ∨ ∃ old before q other after, s.users.get? u.id = some old ∧
          r.providerSubjects = before ++ (q, other) :: after ∧ (p, subject) ∈ after ∧
            old.providerSubject q = some other) := by
  refine ⟨⟨fun final x member p subject u w shares => run.shared_stays member shares final, ?_⟩, ?_⟩
  · refine run.invariant System.sound_idle
      (P := fun past s => (∀ x ∈ past, ∀ p subject u w, ¬ x.Shares p subject u w) →
        s.AccountsUnique) (fun _ => unique) ?_ ?_
    · intro past s x s' unique did apart
      have before := unique fun y member => apart y (List.mem_append_left _ member)
      have last := apart x (List.mem_append_right _ (List.mem_singleton_self x))
      rcases did with ⟨m, deed, wrote⟩ | ⟨rfl, idle⟩
      · exact Entry.Did.accountsUnique (.inl ⟨m, deed, wrote⟩) before
          fun p subject u w shares => last p subject u w ⟨m, s, s', deed, shares⟩
      · exact before
    · intro past s s' unique changed apart
      unfold Store.AccountsUnique
      rw [changed.users]
      exact unique apart
  · intro x member p subject u w ⟨m, s, s', deed, shares⟩
    obtain ⟨earlier, later, rfl⟩ := List.append_of_mem member
    obtain ⟨sys₁, sys₂, t, i, begun, took, _⟩ := run.split
    obtain ⟨_, did⟩ := (begun.sound System.sound_idle).turn took
    obtain ⟨rfl, rfl, wrote⟩ := did.wrote deed
    obtain ⟨l, _, issued, created, written, exchanged, admitted, resolves, redeemed⟩ :=
      shares.exchanged wrote.accounts
    refine ⟨m, _, _, l.session, issued, created, deed, exchanged, admitted.stored, redeemed, ?_⟩
    exact resolves.overlooks redeemed shares.holder shares.held
      (shares.together.symm.trans resolves.organizationId) shares.anew

namespace Deployment

/-- The colleague after leaving, with the account at Google. -/
def formerColleague : User := { colleague with deactivateTime := some now }

def formerColleagues : Table User User.id where
  rows := [user, formerColleague]
  distinct := by decide +kernel

/-- A login with the account of a former colleague, which has the user's email by now. -/
def takenOver : List Entry × System :=
  System.play service
    (viaGoogle ⟨"g-1", user.email, true, none, none, none⟩ 0 0 ++
      [.arrive context .exchange, turn none 5 2])
    { store := store formerColleagues (some organization.id) }

theorem takenOver_run : Run TenantChange service
    { store := store formerColleagues (some organization.id) } takenOver.1 takenOver.2 :=
  System.run_play _ _

theorem accountsUnique : (store formerColleagues (some organization.id)).AccountsUnique := by
  have none : ∀ p, user.providerSubject p = none := by
    intro p
    cases p <;> rfl
  intro u listed w listed' p subject _ holds holds'
  rcases List.mem_cons.mp listed with rfl | former
  · simp [none] at holds
  rcases List.mem_cons.mp listed' with rfl | former'
  · simp [none] at holds'
  cases List.mem_singleton.mp former
  cases List.mem_singleton.mp former'
  rfl

theorem takenOver_shared : ¬ takenOver.2.store.AccountsUnique := by
  intro unique
  have final : takenOver.2.store.users.rows.map (fun u =>
      (u.id, u.organizationId, u.googleUserId)) =
        [(user.id, organization.id, some "g-1"), (colleague.id, organization.id, some "g-1")] := by
    decide +kernel
  obtain ⟨u, _, rows, first, rest⟩ := List.map_eq_cons_iff.mp final
  obtain ⟨w, rfl, second⟩ := List.map_eq_singleton_iff.mp rest
  simp only [Prod.mk.injEq] at first second
  obtain ⟨id, organization, holds⟩ := first
  obtain ⟨id', organization', holds'⟩ := second
  have same := unique u (by simp [rows]) w (by simp [rows]) .google "g-1"
    (organization.trans organization'.symm) holds holds'
  rw [id, id'] at same
  exact absurd same (by decide +kernel)

end Deployment

theorem Run.accounts_unique_of_former :
    ∃ x ∈ Deployment.takenOver.1, ∃ p subject u w, x.Shares p subject u w := by
  have iff := (Run.accounts_unique Deployment.accountsUnique Deployment.takenOver_run).1
  simpa using mt iff.mpr Deployment.takenOver_shared

/-- Without the exception it fails: the account of a user who was deactivated comes to another one
by an exchange. -/
theorem Run.accounts_not_unique :
    ¬ ∀ (v : Service) (start : Store) (past : List Entry) (sys : System), start.AccountsUnique →
      Run TenantChange v { store := start } past sys → sys.store.AccountsUnique :=
  fun claim => Deployment.takenOver_shared
    (claim _ _ _ _ Deployment.accountsUnique Deployment.takenOver_run)

end Vestibule
