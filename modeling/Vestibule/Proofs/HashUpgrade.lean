import Vestibule.Proofs.RegisteredPassword

/-! Hashes are renewed at every match, at the cost that is configured by then. Whatever passed the
old hash passes the new one, so that a user's password stays what it is, however often it is hashed
anew and at whichever costs. -/

namespace Vestibule

/-- A stored text is either unreadable, for every password, or a digest that the key stream of a
password is compared with under a cost and a salt. -/
def PasswordScheme.ComparesDigests (k : PasswordScheme)
    (digest : Nat → List UInt8 → List UInt8 → List UInt8) : Prop :=
  ∀ stored, (∃ e, ∀ q, k.verify q stored = .error e) ∨ ∃ cost salt sum, ∀ q,
    k.verify q stored = .ok (digest cost salt (Bcrypt.stream q) == sum)

theorem PasswordScheme.comparesDigests_bcrypt : bcrypt.ComparesDigests Bcrypt.digest := by
  intro stored
  cases read : Bcrypt.Parts.read stored with
  | error e =>
      refine .inl ⟨e, fun q => ?_⟩
      change Bcrypt.verify q stored = _
      rw [Bcrypt.verify, read]
      rfl
  | ok parts =>
      refine .inr ⟨parts.cost, parts.salt, parts.sum, fun q => ?_⟩
      change Bcrypt.verify q stored = _
      rw [Bcrypt.verify, read]
      rfl

/-- A run through changes of the settings: the services that the requests came to, in the order in
which they arrived, and the turns that were taken. -/
inductive Rollout (others : Store → Store → Prop) (start : Store) :
    List Service → List Entry → System → Prop where
  | start : Rollout others start [] [] { store := start }
  | arrive {services : List Service} {past : List Entry} {sys : System}
      (run : Rollout others start services past sys) (v : Service) (c : RequestContext)
      (call : Call) : Rollout others start (services ++ [v]) past (sys.arrive v c call)
  | turn {services : List Service} {past : List Entry} {sys sys' : System} {x : Entry}
      (run : Rollout others start services past sys) (t : Turn serviceInterface) (i : Nat)
      (taken : sys.turn? t i = some (x, sys')) :
      Rollout others start services (past ++ [x]) sys'
  | change {services : List Service} {past : List Entry} {sys : System} {s : Store}
      (run : Rollout others start services past sys) (changed : others sys.store s) :
      Rollout others start services past { sys with store := s }

variable {others : Store → Store → Prop} {start s s' : Store} {services : List Service}
  {past later : List Entry} {sys sys' : System} {x : Entry} {v : Service} {k : CredentialMatcher}
  {digest : Nat → List UInt8 → List UInt8 → List UInt8} {texts : String → Prop}
  {p q old new : String} {salt : List UInt8} {u : User}

/-- A run under fixed settings goes on from there. -/
theorem Rollout.run (run : Rollout others start services past sys)
    (onward : Run others v sys later sys') :
    ∃ n, Rollout others start (services ++ List.replicate n v) (past ++ later) sys' := by
  induction onward with
  | start => exact ⟨0, by simpa using run⟩
  | arrive onward c call ih =>
      obtain ⟨n, ih⟩ := ih
      refine ⟨n + 1, ?_⟩
      rw [List.replicate_succ', ← List.append_assoc]
      exact ih.arrive v c call
  | turn onward t i taken ih =>
      obtain ⟨n, ih⟩ := ih
      refine ⟨n, ?_⟩
      rw [← List.append_assoc]
      exact ih.turn t i taken
  | change onward changed ih =>
      obtain ⟨n, ih⟩ := ih
      exact ⟨n, ih.change changed⟩

/-- Every request under way commits only what its kind may under the settings of its service. -/
def System.SoundFor (sys : System) (services : List Service) : Prop :=
  sys.flights.length = services.length ∧ ∀ (i : Nat) (f : Flight), sys.flights[i]? = some f →
    ∃ v : Service, services[i]? = some v ∧ f.rest.Always (v.Wrote f.context f.call) f.heard

namespace System.SoundFor

theorem arrive (sound : sys.SoundFor services) (v : Service) (c : RequestContext) (call : Call) :
    (sys.arrive v c call).SoundFor (services ++ [v]) := by
  obtain ⟨many, sound⟩ := sound
  refine ⟨by simp [System.arrive, many], fun i f flying => ?_⟩
  rcases Nat.lt_trichotomy i sys.flights.length with known | rfl | beyond
  · rw [System.arrive, List.getElem?_append_left known] at flying
    rw [List.getElem?_append_left (many ▸ known)]
    exact sound i f flying
  · simp only [System.arrive, List.getElem?_concat_length, Option.some.injEq] at flying
    subst flying
    rw [many, List.getElem?_concat_length]
    exact ⟨v, rfl, Service.serve_always call⟩
  · rw [System.arrive, List.getElem?_eq_none (by simp; omega)] at flying
    cases flying

theorem turn {t : Turn serviceInterface} {i : Nat} (sound : sys.SoundFor services)
    (taken : sys.turn? t i = some (x, sys')) :
    sys'.SoundFor services ∧
      ∃ v, services[x.flight]? = some v ∧ x.Did v sys.store sys'.store := by
  obtain ⟨many, sound⟩ := sound
  obtain ⟨f, deed, rest, s', flying, stepped, rfl, rfl⟩ := System.turn?_eq_some.mp taken
  obtain ⟨v, served, always⟩ := sound i f flying
  obtain ⟨onward, did⟩ := always.step stepped
  refine ⟨⟨by simp [many], fun j g flying' => ?_⟩, v, served, did⟩
  by_cases own : i = j
  · subst own
    rw [List.getElem?_set_self (List.getElem?_eq_some_iff.mp flying).1] at flying'
    cases flying'
    exact ⟨v, served, onward⟩
  · rw [List.getElem?_set_ne own] at flying'
    exact sound j g flying'

end System.SoundFor

namespace Rollout

theorem sound (run : Rollout others start services past sys) : sys.SoundFor services := by
  induction run with
  | start => exact ⟨rfl, fun i f flying => by cases flying⟩
  | arrive run v c call ih => exact ih.arrive v c call
  | turn run t i taken ih => exact (ih.turn taken).1
  | change run changed ih => exact ih

/-- What holds at the start, and is kept by every turn under the settings of its service and by what
others do, holds after every run. -/
theorem invariant {P : List Entry → Store → Prop} (run : Rollout others start services past sys)
    (init : P [] start)
    (turn : ∀ past s x s' v, services[x.flight]? = some v → P past s → x.Did v s s' →
      P (past ++ [x]) s')
    (change : ∀ past s s', P past s → others s s' → P past s') : P past sys.store := by
  induction run with
  | start => exact init
  | arrive run w c call ih =>
      refine ih fun past s x s' v served => turn past s x s' v ?_
      rw [List.getElem?_append_left (List.getElem?_eq_some_iff.mp served).1, served]
  | turn run t i taken ih =>
      obtain ⟨_, v, served, did⟩ := run.sound.turn taken
      exact turn _ _ _ _ v served (ih turn) did
  | change run changed ih => exact change _ _ _ (ih turn) changed

/-- Every turn of a run did what its request may, under the settings of its service. -/
theorem did (run : Rollout others start services past sys) (member : x ∈ past) :
    ∃ v s s', services[x.flight]? = some v ∧ x.Did v s s' := by
  refine run.invariant (P := fun past _ => ∀ x ∈ past, ∃ v s s',
    services[x.flight]? = some v ∧ x.Did v s s') (fun _ none => by cases none) ?_
    (fun _ _ _ all _ => all) x member
  intro past s x s' v served all did y member
  rcases List.mem_append.mp member with before | new
  · exact all y before
  · cases List.mem_singleton.mp new
    exact ⟨v, s, s', served, did⟩

end Rollout

/-- A text that passed a stored hash shows which stream the hash guards. -/
theorem CredentialMatcher.guards_of_match (compares : k.scheme.ComparesDigests digest)
    (apart : Bcrypt.Separates digest texts) (listed : texts p)
    (matched : k.verifyHash p old = .ok true) : k.Guards texts (Bcrypt.stream p) old := by
  intro q listed'
  have matched := Service.mapError_eq_ok.mp matched
  rcases compares old with ⟨e, unreadable⟩ | ⟨cost, salt, sum, compared⟩
  · cases (unreadable p).symm.trans matched
  · have same : digest cost salt (Bcrypt.stream p) = sum := by
      simpa using (compared p).symm.trans matched
    have agrees : (digest cost salt (Bcrypt.stream q) == sum) =
        (Bcrypt.stream q == Bcrypt.stream p) := by
      rw [Bool.eq_iff_iff, beq_iff_eq, beq_iff_eq, ← same]
      exact ⟨apart cost salt p q listed listed', fun alike => by rw [alike]⟩
    rw [verifyHash, compared, agrees]
    rfl

/-- The hash of a text that passed the stored one answers to every text as that one did. -/
theorem CredentialMatcher.renews (keyed : k.scheme.Keyed digest)
    (compares : k.scheme.ComparesDigests digest) (apart : Bcrypt.Separates digest texts)
    (listed : texts p) (salted : salt.length = 16) (matched : k.verifyHash p old = .ok true)
    (hashed : k.hash salt p = .ok new) (listed' : texts q) :
    k.scheme.verify q new = k.scheme.verify q old := by
  have before := guards_of_match compares apart listed matched q listed'
  have after := guards_of_hash keyed apart listed salted hashed q listed'
  rw [Service.mapError_eq_ok.mp before, Service.mapError_eq_ok.mp after]

/-- A turn that matched the hash of a user writes the user with the hash of the text that was
presented, the count and the lockout cleared, and nothing else changed. -/
theorem Entry.Did.rehashes (did : x.Did v s s') (matched : x.matchedUser? = some u) :
    ∃ m password new, x.deed = .committed m s s' ∧ x.presented? = some password ∧
      v.matcher.Compares m.now u password true ∧ v.matcher.hash m.salt password = .ok new ∧
        s.users.get? u.id = some u ∧ s'.users.get? u.id = some (u.rehashed m.now new) := by
  obtain ⟨salt, email, password, m, l, lesson, written, change, rest, takes, owner, compared⟩ :=
    did.matched matched
  have presented : x.presented? = some password := by simp [Entry.presented?, takes.asked]
  have stored := owner.stored.1
  have replaced (new : String) :
      (s.users.replace (u.rehashed m.now new)).get? u.id = some (u.rehashed m.now new) :=
    Table.get?_replace_self (r := u.rehashed m.now new) stored
  cases takes.step with
  | stagedMatched checked waiting =>
      have none := owner.hashOwner?
      simp [Loaded.hashOwner?, waiting] at none
  | passwordMatched organization owner' _ hashed =>
      cases owner.unique owner'
      refine ⟨m, password, _, takes.deed, presented, compared, hashed, stored, ?_⟩
      rw [takes.after]
      exact replaced _
  | loggedIn owner' _ hashed =>
      cases owner.unique owner'
      refine ⟨m, password, _, takes.deed, presented, compared, hashed, stored, ?_⟩
      rw [takes.after]
      exact replaced _

/-- A turn that attaches no password to the user leaves a stored hash that answers alike. -/
theorem Entry.Rekeys.agrees {id : Uuid} {u' : User} (rekeys : x.Rekeys k id u u')
    (keyed : k.scheme.Keyed digest) (compares : k.scheme.ComparesDigests digest)
    (apart : Bcrypt.Separates digest texts) (presented : ∀ q ∈ x.presented?, texts q)
    (salted : x.salted = true) (unattached : x.attachesPassword id = false)
    (set : u.passwordHash = some old) :
    ∃ new, u'.passwordHash = some new ∧
      ∀ q, texts q → k.scheme.verify q new = k.scheme.verify q old := by
  cases rekeys with
  | kept same => exact ⟨old, same.trans set, fun _ _ => rfl⟩
  | @rehashed _ _ _ password new deed shown compared hashed renewed =>
      obtain ⟨stored, set', matched⟩ := compared.compared
      cases set.symm.trans set'
      exact ⟨new, renewed, fun q => CredentialMatcher.renews keyed compares apart
        (presented password shown) (Entry.salt_of_salted salted deed) matched hashed⟩
  | attached attaches => exact absurd (attaches.symm.trans unattached) (by decide)

/-- Through a run that attaches no password to a user, the stored hash answers as it did at the
start, whatever the settings were in between. -/
theorem Rollout.keeps_password {scheme : PasswordScheme} {id : Uuid}
    (run : Rollout TenantChange start services past sys)
    (hashes : ∀ v ∈ services, v.matcher.scheme = scheme) (keyed : scheme.Keyed digest)
    (compares : scheme.ComparesDigests digest) (apart : Bcrypt.Separates digest texts)
    (presents : Presents texts past) (unattached : ∀ z ∈ past, z.attachesPassword id = false)
    (stored : start.users.get? id = some u) (set : u.passwordHash = some old) :
    ∃ u' new, sys.store.users.get? id = some u' ∧ u'.passwordHash = some new ∧
      ∀ q, texts q → scheme.verify q new = scheme.verify q old := by
  refine run.invariant
    (P := fun past s => Presents texts past → (∀ z ∈ past, z.attachesPassword id = false) →
      ∃ u' new, s.users.get? id = some u' ∧ u'.passwordHash = some new ∧
        ∀ q, texts q → scheme.verify q new = scheme.verify q old) ?_ ?_ ?_ presents unattached
  · exact fun _ _ => ⟨u, old, stored, set, fun _ _ => rfl⟩
  · intro past s z s' v served ih did presents unattached
    obtain ⟨w, mid, stored, set, same⟩ :=
      ih (fun y member => presents y (List.mem_append_left _ member))
        fun y member => unattached y (List.mem_append_left _ member)
    obtain ⟨w', stored', rekeys⟩ := did.rekeys stored
    obtain ⟨presented, salted⟩ := presents z (by simp)
    cases hashes v (List.mem_of_getElem? served)
    obtain ⟨new, set', renewed⟩ :=
      rekeys.agrees keyed compares apart presented salted (unattached z (by simp)) set
    exact ⟨w', new, stored', set', fun q listed => (renewed q listed).trans (same q listed)⟩
  · intro past s s' ih changed presents unattached
    obtain ⟨w, mid, stored, rest⟩ := ih presents unattached
    exact ⟨w, mid, changed.users ▸ stored, rest⟩

/-- Renewing a hash keeps the password. In every run, whichever settings the requests came to, a
turn that matched the stored hash of a user replaces it by the hash of the text that was presented,
at the cost of its service, clears the count and the lockout, and changes nothing else of the user
but the time of the update; and the new hash answers to every text as the old one did. So through
any run in which no other password is attached to a user, what is stored answers as it did at the
start. -/
theorem Rollout.renewals_keep_password {scheme : PasswordScheme}
    (run : Rollout TenantChange start services past sys)
    (hashes : ∀ v ∈ services, v.matcher.scheme = scheme) (keyed : scheme.Keyed digest)
    (compares : scheme.ComparesDigests digest) (apart : Bcrypt.Separates digest texts)
    (presents : Presents texts past) :
    (∀ x ∈ past, ∀ u, x.matchedUser? = some u →
      ∃ v m before after password old new, services[x.flight]? = some v ∧
        x.deed = .committed m before after ∧ x.presented? = some password ∧
          before.users.get? u.id = some u ∧ u.passwordHash = some old ∧
            scheme.hash v.matcher.cost m.salt password = .ok new ∧
              after.users.get? u.id = some { u with
                passwordHash := some new
                failedPasswordAttempts := 0
                lockoutExpireTime := none
                updateTime := m.now } ∧
              ∀ q, texts q → scheme.verify q new = scheme.verify q old) ∧
    ∀ id u old, start.users.get? id = some u → u.passwordHash = some old →
      (∀ z ∈ past, z.attachesPassword id = false) →
        ∃ u' new, sys.store.users.get? id = some u' ∧ u'.passwordHash = some new ∧
          ∀ q, texts q → scheme.verify q new = scheme.verify q old := by
  refine ⟨fun x member u matched => ?_, fun id u old stored set unattached =>
    run.keeps_password hashes keyed compares apart presents unattached stored set⟩
  obtain ⟨v, before, after, served, did⟩ := run.did member
  obtain ⟨m, password, new, deed, shown, compared, hashed, stored, written⟩ := did.rehashes matched
  obtain ⟨old, set, matches'⟩ := compared.compared
  obtain ⟨presented, salted⟩ := presents x member
  cases hashes v (List.mem_of_getElem? served)
  exact ⟨v, m, before, after, password, old, new, served, deed, shown, stored, set,
    Service.mapError_eq_ok.mp hashed, written, fun q => CredentialMatcher.renews keyed compares
      apart (presented password shown) (Entry.salt_of_salted salted deed) matches' hashed⟩

namespace Deployment

/-- Hashing that keeps the cost and the key stream of a password as they are. -/
def costed : PasswordScheme where
  hash cost _ password :=
    .ok (String.ofList (Char.ofNat cost :: (Bcrypt.stream password).map Char.ofUInt8))
  verify password stored :=
    .ok (Bcrypt.stream password == stored.toList.tail.map fun c => UInt8.ofNat c.toNat)

theorem keyed_costed : costed.Keyed fun _ _ stream => stream := by
  refine ⟨fun _ _ q => ⟨_, rfl⟩, fun {cost _ p stored} _ hashed q => ?_⟩
  have same : String.ofList (Char.ofNat cost :: (Bcrypt.stream p).map Char.ofUInt8) = stored :=
    Except.ok.inj hashed
  have letter (b : UInt8) : UInt8.ofNat (Char.ofUInt8 b).toNat = b := UInt8.ofNat_toNat
  subst same
  simp [costed, Function.comp_def, letter]

theorem comparesDigests_costed : costed.ComparesDigests fun _ _ stream => stream :=
  fun _ => .inr ⟨0, [], _, fun _ => rfl⟩

/-- The service with this cost for new hashes. -/
def costing (cost : Nat) : Service :=
  { service with matcher := .new costed 5 (.ofSeconds 900) cost }

/-- The user registered the longest password under the least cost, and mistyped it since. -/
def veteran : User :=
  { user with
    passwordHash := (costed.hash 4 [] longest).toOption
    failedPasswordAttempts := 3 }

def oldHash : String :=
  String.ofList (Char.ofNat 4 :: (Bcrypt.stream longest).map Char.ofUInt8)

def veteranStore : Store :=
  { store (only veteran) none with
    intermediateSessions := ⟨[session, secondSession], by decide⟩ }

/-- The user logs in with a longer text that bcrypt takes for the password. -/
def firstRenewal : List Entry × System :=
  System.play (costing 6)
    [.arrive context (.login [] (.verifyPassword (some user.email) longer)), turn none 0 0]
    { store := veteranStore }

/-- And then with the password, the cost having been lowered. -/
def secondRenewal : List Entry × System :=
  System.play (costing 5)
    [.arrive secondContext (.login [] (.verifyPassword (some user.email) longest)), turn none 1 1]
    firstRenewal.2

theorem renewals_seen : (firstRenewal.1 ++ secondRenewal.1).map (fun x =>
    (x.presented?, x.salted, x.matchedUser?.map (·.id), x.attachesPassword user.id)) =
      [(some longer, true, some user.id, false), (some longest, true, some user.id, false)] := by
  decide +kernel

theorem renewals_run : ∃ services,
    Rollout TenantChange veteranStore services (firstRenewal.1 ++ secondRenewal.1)
      secondRenewal.2 ∧ ∀ v ∈ services, v.matcher.scheme = costed := by
  obtain ⟨n, first⟩ := Rollout.run .start (System.run_play (v := costing 6) _ _)
  obtain ⟨m, second⟩ := first.run (System.run_play (v := costing 5) _ _)
  refine ⟨_, second, fun v member => ?_⟩
  rcases List.mem_append.mp member with before | after
  · cases List.eq_of_mem_replicate before
    rfl
  · cases List.eq_of_mem_replicate after
    rfl

/-- Every turn matched the user, under a salt of 16 bytes. -/
theorem renewals_match : ∀ x ∈ firstRenewal.1 ++ secondRenewal.1, x.salted = true ∧
    (∃ u, x.matchedUser? = some u ∧ u.id = user.id) ∧ x.attachesPassword user.id = false := by
  intro x member
  have seen : (x.presented?, x.salted, x.matchedUser?.map (·.id), x.attachesPassword user.id) ∈
      [(some longer, true, some user.id, false), (some longest, true, some user.id, false)] :=
    renewals_seen ▸ List.mem_map_of_mem member
  simp only [List.mem_cons, List.not_mem_nil, or_false, Prod.mk.injEq, Option.map_eq_some_iff]
    at seen
  rcases seen with ⟨_, salted, matched, unattached⟩ | ⟨_, salted, matched, unattached⟩ <;>
    exact ⟨salted, matched, unattached⟩

end Deployment

open Deployment in
theorem Rollout.renewals_keep_password_of_veteran :
    (∀ x ∈ firstRenewal.1 ++ secondRenewal.1, ∃ m before after u,
      x.deed = .committed m before after ∧ after.users.get? user.id = some u ∧
        u.failedPasswordAttempts = 0 ∧ u.updateTime = m.now) ∧
    ∃ u new, secondRenewal.2.store.users.get? user.id = some u ∧ u.passwordHash = some new ∧
      new ≠ oldHash ∧ ∀ q, costed.verify q new = costed.verify q oldHash := by
  obtain ⟨services, run, hashes⟩ := renewals_run
  have separates : Bcrypt.Separates (fun _ _ stream => stream) fun _ => True :=
    fun _ _ _ _ _ _ same => same
  obtain ⟨renewed, kept⟩ := Rollout.renewals_keep_password run hashes keyed_costed
    comparesDigests_costed separates
    fun x member => ⟨fun _ _ => True.intro, (renewals_match x member).1⟩
  refine ⟨fun x member => ?_, ?_⟩
  · obtain ⟨_, ⟨u, matched, own⟩, _⟩ := renewals_match x member
    obtain ⟨_, m, before, after, _, _, _, _, deed, _, _, _, _, written, _⟩ :=
      renewed x member u matched
    exact ⟨m, before, after, _, deed, own ▸ written, rfl, rfl⟩
  · obtain ⟨u, new, stored, set, same⟩ := kept user.id veteran oldHash (by decide +kernel) rfl
      fun x member => (renewals_match x member).2.2
    have changed : (secondRenewal.2.store.users.get? user.id).bind (·.passwordHash) ≠
        some oldHash := by
      decide +kernel
    rw [stored, Option.bind_some, set] at changed
    exact ⟨u, new, stored, set, fun alike => changed (congrArg some alike),
      fun q => same q True.intro⟩

end Vestibule
